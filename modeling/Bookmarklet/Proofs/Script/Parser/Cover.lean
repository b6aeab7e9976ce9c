import Bookmarklet.Proofs.Script.Parser.Place
import Bookmarklet.Script.Parser.Subtree

/-!
# What parts of a parse cover

A part covers the text between two places if its leaves, each behind its blanks, make up that text
(`Subtree.Covers`). To wrap parts that follow each other is to cover what they cover (`Subtree.covers_wrap`).

A tree reads the text between two places if the tokens in it do (`Tree.Reads`); the tree of a part reads what the part
covers (`Subtree.Covers.reads_tree`).
-/

namespace Bookmarklet.Script

/-! ## Parts -/

/-- A leaf that a tree shows has text, unless it is faulty. Any other is empty, but for a byte order mark before it, or
ends the source. -/
def Leaf.Fits (l : Leaf) (gap : List Char) (a b : Cursor) : Prop :=
  match l.kind? with
  | some _ => l.text = [] → l.isFaulty
  | none => l.text = [] ∧ (gap = [] ∨ a.position.byte = 0) ∨ b.rest = []

/-- Whether a leaf has text, is faulty, or does not show in a tree. -/
def Leaf.isFair : Leaf → Bool
  | mark t => t.kind?.isNone
  | _ => true

namespace Subtree

/-- Whether a part is a single token, with text if that is to show. -/
def isToken : Subtree → Bool
  | leaf l _ _ => l.isFair
  | branch _ _ _ _ _ _ => false

mutual
/-- The leaves of a part make up the text between two places. -/
def Covers : Subtree → Cursor → Cursor → Prop
  | leaf l span _, a, b =>
    (∃ m, a.Leads span.gap m ∧ span.start = m.position ∧ m.Leads l.text b) ∧ span.stop = b ∧ l.Fits span.gap a b
  | branch _ _ children span _ _, a, b => CoversAll children a b ∧ span.stop = b

/-- The leaves of consecutive parts make up the text between two places. -/
def CoversAll : List Subtree → Cursor → Cursor → Prop
  | [], a, b => a = b
  | c :: cs, a, b => ∃ m, c.Covers a m ∧ CoversAll cs m b
end

section Covers

variable {a b m : Cursor}

theorem Covers.stop {s : Subtree} (h : s.Covers a b) : s.span.stop = b := by
  cases s with
  | leaf l span extra => exact h.2.1
  | branch symbol shape children span extra weight => exact h.2

mutual
theorem Covers.leads : ∀ {s : Subtree} {a b : Cursor}, s.Covers a b → ∃ text, a.Leads text b
  | leaf _ _ _, _, _, h => by
    obtain ⟨⟨m, hgap, -, htext⟩, -, -⟩ := h
    exact ⟨_, hgap.trans htext⟩
  | branch _ _ _ _ _ _, _, _, h => CoversAll.leads h.1

theorem CoversAll.leads : ∀ {cs : List Subtree} {a b : Cursor}, CoversAll cs a b → ∃ text, a.Leads text b
  | [], a, _, h => by
    cases h
    exact ⟨[], .refl a⟩
  | _ :: _, _, _, h => by
    obtain ⟨m, hc, hcs⟩ := h
    obtain ⟨s, hs⟩ := hc.leads
    obtain ⟨t, ht⟩ := hcs.leads
    exact ⟨_, hs.trans ht⟩
end

theorem coversAll_append {cs ds : List Subtree} {a b : Cursor} :
    CoversAll (cs ++ ds) a b ↔ ∃ m, CoversAll cs a m ∧ CoversAll ds m b := by
  induction cs generalizing a with
  | nil => simp [CoversAll]
  | cons c cs ih =>
    simp only [List.cons_append, CoversAll, ih]
    constructor
    · rintro ⟨m, hc, n, hcs, hds⟩
      exact ⟨n, ⟨m, hc, hcs⟩, hds⟩
    · rintro ⟨n, ⟨m, hc, hcs⟩, hds⟩
      exact ⟨m, hc, n, hcs, hds⟩

theorem coversAll_singleton {c : Subtree} : CoversAll [c] a b ↔ c.Covers a b := by
  simp [CoversAll]

theorem covers_withExtra {s : Subtree} {extra : Bool} : (s.withExtra extra).Covers a b ↔ s.Covers a b := by
  cases s <;> rfl

theorem covers_prefer {s : Subtree} {preference : Int} : (s.prefer preference).Covers a b ↔ s.Covers a b := by
  cases s <;> rfl

theorem CoversAll.stop : ∀ {c : Subtree} {cs : List Subtree} {a : Cursor}, CoversAll (c :: cs) a b →
    (cs.getLast?.getD c).span.stop = b
  | c, [], _, h => (coversAll_singleton.1 h).stop
  | c, d :: cs, _, h => by
    obtain ⟨m, -, h⟩ := h
    rw [List.getLast?_cons]
    exact h.stop

/-- To wrap parts is to cover what they cover; where there are none, `here` has to be the place. -/
theorem covers_wrap {cs : List Subtree} (h : CoversAll cs a b) (symbol : Symbol) (shape : Grammar.Shape)
    {here : Cursor} (hh : cs = [] → here = b) : (wrap symbol shape here cs).Covers a b := by
  refine ⟨h, ?_⟩
  cases cs with
  | nil => exact hh rfl
  | cons c cs => exact h.stop

theorem splitExtras_append (parts : List Subtree) : (splitExtras parts).1 ++ (splitExtras parts).2 = parts := by
  have htake {x y l : List Subtree} (h : x ++ y = l) : l.take (l.length - y.length) ++ y = l := by
    subst h
    simp
  refine htake (x := (parts.reverse.dropWhile (·.extra)).reverse) ?_
  show _ ++ (parts.reverse.takeWhile (·.extra)).reverse = parts
  rw [← List.reverse_append, List.takeWhile_append_dropWhile, List.reverse_reverse]

theorem reverse_splitExtras (parts : List Subtree) :
    (splitExtras parts).1.reverse = parts.reverse.dropWhile (·.extra) := by
  have happend := congrArg List.reverse (splitExtras_append parts)
  rw [List.reverse_append, ← List.takeWhile_append_dropWhile (p := (·.extra)) (l := parts.reverse)] at happend
  refine (List.append_right_inj (splitExtras parts).2.reverse).1 (happend.trans ?_)
  rw [splitExtras, List.reverse_reverse]

/-- Parts without the extra parts at their end, and these. -/
theorem covers_splitExtras {parts : List Subtree} (h : CoversAll parts a b) :
    ∃ m, CoversAll (splitExtras parts).1 a m ∧ CoversAll (splitExtras parts).2 m b := by
  rw [← splitExtras_append parts] at h
  exact coversAll_append.1 h

end Covers
end Subtree

/-! ## Trees -/

/-- Between two places there is nothing that a tree shows: nothing at all but at either end of the source. -/
def Cursor.Slack (a b : Cursor) : Prop := ∃ text, a.Leads text b ∧ (text = [] ∨ a.position.byte = 0 ∨ b.rest = [])

namespace Cursor

variable {a b c : Cursor}

theorem Slack.refl (a : Cursor) : a.Slack a := ⟨[], .refl a, .inl rfl⟩

theorem Slack.trans (h : a.Slack b) (h' : b.Slack c) : a.Slack c := by
  obtain ⟨s, hs, hs'⟩ := h
  obtain ⟨t, ht, ht'⟩ := h'
  refine ⟨s ++ t, hs.trans ht, ?_⟩
  rcases hs' with rfl | hs' | hs'
  · cases hs.eq_of_nil
    exact ht'
  · exact .inr (.inl hs')
  · rw [ht.rest] at hs'
    exact .inr (.inr (List.append_eq_nil_iff.1 hs').2)

end Cursor

namespace Tree

mutual
/-- The leaves of a tree, each behind its gap, make up the text between two places. Leaves without text are faulty, and
so is what contains anything faulty. -/
def Reads : Tree → Cursor → Cursor → Prop
  | leaf info text, a, b =>
    ∃ m, a.Leads info.gap m ∧ info.start = m.position ∧ m.Leads text b ∧ (text = [] → info.faulty)
  | node info children, a, b => ReadsIn children a b ∧ (children.any (·.info.faulty) → info.faulty)

/-- The leaves of consecutive trees make up the text between two places. -/
def ReadsIn : List Tree → Cursor → Cursor → Prop
  | [], a, b => a.Slack b
  | t :: ts, a, b => ∃ m n, a.Slack m ∧ t.Reads m n ∧ ReadsIn ts n b
end

/-- What a node without faults contains has none either. -/
theorem clean_of_mem {faulty : Bool} {children : List Tree} (h : children.any (·.info.faulty) → faulty)
    (hf : faulty = false) : ∀ c ∈ children, c.info.faulty = false := by
  intro c hc
  rw [hf] at h
  exact Bool.eq_false_iff.2 fun hc' => Bool.false_ne_true (h (List.any_eq_true.2 ⟨c, hc, hc'⟩))

theorem ReadsIn.of_slack {a b c : Cursor} (h : a.Slack b) : ∀ {ts : List Tree}, ReadsIn ts b c → ReadsIn ts a c
  | [], h' => h.trans h'
  | _ :: _, ⟨m, n, hm, ht, hts⟩ => ⟨m, n, h.trans hm, ht, hts⟩

theorem ReadsIn.append {ts us : List Tree} {a b c : Cursor} (h : ReadsIn ts a b) (h' : ReadsIn us b c) :
    ReadsIn (ts ++ us) a c := by
  induction ts generalizing a with
  | nil => exact h'.of_slack h
  | cons t ts ih =>
    obtain ⟨m, n, hm, ht, hts⟩ := h
    exact ⟨m, n, hm, ht, ih hts⟩

mutual
theorem Reads.leads : ∀ {t : Tree} {a b : Cursor}, t.Reads a b → ∃ text, a.Leads text b
  | leaf _ _, _, _, ⟨_, hgap, _, htext, _⟩ => ⟨_, hgap.trans htext⟩
  | node _ _, _, _, h => ReadsIn.leads h.1

theorem ReadsIn.leads : ∀ {ts : List Tree} {a b : Cursor}, ReadsIn ts a b → ∃ text, a.Leads text b
  | [], _, _, ⟨text, h, _⟩ => ⟨text, h⟩
  | _ :: _, _, _, ⟨_, _, ⟨s, hs, _⟩, ht, hts⟩ => by
    obtain ⟨t, ht⟩ := ht.leads
    obtain ⟨u, hu⟩ := hts.leads
    exact ⟨_, hs.trans (ht.trans hu)⟩
end

theorem readsIn_singleton {t : Tree} {a b : Cursor} (h : t.Reads a b) : ReadsIn [t] a b :=
  ⟨a, b, .refl a, h, .refl b⟩

end Tree

namespace Subtree

mutual
/-- The nodes that a part leaves in a tree read what the part covers. -/
theorem Covers.reads : ∀ {s : Subtree} {a b : Cursor} (alias? : Option Kind) (field : Option Field), s.Covers a b →
    Tree.ReadsIn (s.nodes alias? field) a b
  | leaf l span extra, a, b, alias?, field, h => by
    obtain ⟨⟨m, hgap, hstart, htext⟩, -, hfits⟩ := h
    rw [nodes]
    rw [Leaf.Fits] at hfits
    cases hk : l.kind? with
    | none =>
      rw [hk] at hfits
      refine ⟨_, hgap.trans htext, ?_⟩
      rcases hfits with ⟨hnil, hempty | hbyte⟩ | hrest
      · rw [hempty, hnil]
        exact .inl rfl
      · exact .inr (.inl hbyte)
      · exact .inr (.inr hrest)
    | some kind =>
      rw [hk] at hfits
      rw [Option.isSome_some, if_pos rfl]
      obtain ⟨shown, hshown⟩ : ∃ shown, alias?.or (some kind) = some shown := by cases alias? <;> exact ⟨_, rfl⟩
      rw [hshown]
      exact Tree.readsIn_singleton ⟨m, hgap, hstart, htext, hfits⟩
  | branch symbol shape children span extra weight, a, b, alias?, field, h => by
    rw [nodes]
    cases alias?.or symbol.kind? with
    | none => exact CoversAll.reads shape field 0 h.1
    | some kind =>
      exact Tree.readsIn_singleton ⟨CoversAll.reads shape none 0 h.1, fun hf => by rw [hf, Bool.or_true]⟩

theorem CoversAll.reads : ∀ {cs : List Subtree} {a b : Cursor} (shape : Grammar.Shape) (inherited : Option Field)
    (position : Nat), CoversAll cs a b → Tree.ReadsIn (nodesOf shape inherited position cs) a b
  | [], a, b, _, _, _, h => by
    cases h
    exact .refl a
  | c :: cs, a, b, shape, inherited, position, h => by
    obtain ⟨m, hc, hcs⟩ := h
    rw [nodesOf]
    split
    · exact (hc.reads none none).append (hcs.reads shape inherited position)
    · exact (hc.reads _ _).append (hcs.reads shape inherited (position + 1))
end

/-- The tree of a part reads the text that the part covers, or the start of it. -/
theorem Covers.reads_tree {s : Subtree} {a b : Cursor} (h : s.Covers a b) :
    ∃ m n text, a.Slack m ∧ s.tree.Reads m n ∧ n.Leads text b := by
  have hreads := h.reads none none
  unfold tree
  cases hs : s.nodes none none with
  | nil =>
    obtain ⟨text, htext⟩ := h.leads
    exact ⟨a, a, text, .refl a, ⟨.refl a, fun hf => by cases hf⟩, htext⟩
  | cons t ts =>
    rw [hs] at hreads
    obtain ⟨m, n, hm, ht, hts⟩ := hreads
    obtain ⟨text, htext⟩ := hts.leads
    exact ⟨m, n, text, hm, ht, htext⟩

end Subtree
end Bookmarklet.Script
