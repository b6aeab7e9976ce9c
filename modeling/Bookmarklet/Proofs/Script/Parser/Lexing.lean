import Bookmarklet.Proofs.Script.Parser.Cover
import Bookmarklet.Script.Parse

/-!
# The next token covers its text

Whatever is found at a cursor, the part that it becomes covers the text from there to where it stops
(`Parser.covers_lex`).
-/

namespace Bookmarklet.Script

/-! ## Tokens found by patterns -/

/-- A token that a pattern describes shows in a tree, and has text. -/
theorem Terminal.pattern?_proper (t : Terminal) {p : Pattern} (h : t.pattern? = some p) :
    t.kind?.isSome ∧ p.nullable = false := by
  have hall : (t.pattern?.all fun p => t.kind?.isSome && !p.nullable) = true := by
    cases t <;> rfl
  rw [h] at hall
  simpa using hall

namespace Mode

/-- The tokens of a mode show in a tree, and have text. -/
def Proper (mode : Mode) : Prop :=
  ∀ e ∈ mode.immediate ++ mode.spaced, e.1.kind?.isSome ∧ e.2.nullable = false

theorem proper_ofTerminals (terminals : List Terminal) : (ofTerminals terminals).Proper := by
  have hmem {ts : List Terminal} {e : Terminal × Pattern} (h : e ∈ ts.filterMap fun t => t.pattern?.map (t, ·)) :
      e.1.kind?.isSome ∧ e.2.nullable = false := by
    obtain ⟨t, -, ht⟩ := List.mem_filterMap.1 h
    obtain ⟨p, hp, rfl⟩ := Option.map_eq_some_iff.1 ht
    exact t.pattern?_proper hp
  intro e he
  rcases List.mem_append.1 he with he | he <;> exact hmem he

theorem proper_ofIndex (i : Nat) : (ofIndex i).Proper := by
  rw [ofIndex, List.getD_eq_getElem?_getD]
  cases h : all[i]? with
  | none => exact fun e he => by cases he
  | some mode =>
    obtain ⟨terminals, -, rfl⟩ := List.mem_map.1 (List.mem_of_getElem? h)
    exact proper_ofTerminals terminals

/-- What has been read when a scan has come to an offset: tokens that have started show in a tree and have text as soon
as they are complete, and so has the last one that was complete; `start` is where they started. -/
structure Reading (mode : Mode) (offset start : Nat) (front : Front) (best : Option (Terminal × Nat)) : Prop where
  le : start ≤ offset
  started : front.blank = false → start < offset
  live : ∀ e ∈ front.live, e.1.kind?.isSome ∧ (e.2.nullable → start < offset)
  best : ∀ e ∈ best, e.1.kind?.isSome ∧ e.2 ≤ offset ∧ e.2 ≠ start

section Reading

variable {mode : Mode} {offset start : Nat} {front : Front} {best : Option (Terminal × Nat)}

/-- What is complete is one of the tokens that have started. -/
theorem mem_live_of_complete? {t : Terminal} (h : front.complete? = some t) :
    ∃ p, (t, p) ∈ front.live ∧ p.nullable := by
  have hfold : ∀ (l : List (Terminal × Pattern)) (b : Option Terminal),
      l.foldl (fun best t => Front.prefer best t.1) b = some t → b = some t ∨ ∃ p, (t, p) ∈ l := by
    intro l
    induction l with
    | nil => exact fun b h => .inl h
    | cons e l ih =>
      intro b h
      rcases ih _ h with hb | ⟨p, hp⟩
      · have hprefer : b = some t ∨ e.1 = t := by
          simp only [Front.prefer] at hb
          split at hb
          · exact .inr (Option.some.inj hb)
          · split at hb
            · exact .inl hb
            · exact .inr (Option.some.inj hb)
        rcases hprefer with hb | rfl
        · exact .inl hb
        · exact .inr ⟨e.2, List.mem_cons_self⟩
      · exact .inr ⟨p, List.mem_cons_of_mem e hp⟩
  rcases hfold _ none h with h | ⟨p, hp⟩
  · cases h
  · exact ⟨p, (List.mem_filter.1 hp).1, (List.mem_filter.1 hp).2⟩

/-- The best token after one that may be complete now. -/
theorem Reading.complete (h : Reading mode offset start front best) :
    ∀ e ∈ (front.complete?.map (·, offset)).or best, e.1.kind?.isSome ∧ e.2 ≤ offset ∧ e.2 ≠ start := by
  intro e he
  cases hc : front.complete? with
  | none =>
    rw [hc, Option.map_none, Option.none_or] at he
    exact h.best e he
  | some t =>
    rw [hc] at he
    cases he
    obtain ⟨p, hp, hnull⟩ := mem_live_of_complete? hc
    obtain ⟨hkind, hlt⟩ := h.live _ hp
    have := hlt hnull
    exact ⟨hkind, Nat.le_refl _, by simp only; omega⟩

theorem follow_mem {c : Char} {live : List (Terminal × Pattern)} {e : Terminal × Pattern}
    (h : e ∈ Front.follow c live) : ∃ p, (e.1, p) ∈ live := by
  obtain ⟨⟨t, p⟩, hm, he⟩ := List.mem_filterMap.1 h
  simp only at he
  split at he
  · cases he
  · cases he
    exact ⟨p, hm⟩

/-- What a front becomes has blanks only, or tokens that have started. -/
theorem step_eq_some {c : Char} {next : Front} (h : front.step mode c = some next) :
    (∀ e ∈ next.live, (∃ p, (e.1, p) ∈ front.live) ∨ ∃ p, (e.1, p) ∈ mode.spaced)
      ∧ (next.live = [] → next.blank) := by
  have hnext : ∃ blank, next = ⟨blank, Front.follow c front.live
      ++ if front.blank then Front.follow c mode.spaced else []⟩ ∧ (next.live = [] → blank) := by
    simp only [Front.step] at h
    generalize (Front.follow c front.live ++ if front.blank then Front.follow c mode.spaced else []) = live at h ⊢
    generalize (front.blank && CharSet.separator.contains c && !mode.spaced.isEmpty) = blank at h
    generalize live.foldl (fun s l => max s l.1.strength) (if blank then 0 else -1) = strength at h
    split at h
    · cases h
    next hlive =>
      have hblank : live = [] → blank := by
        rintro rfl
        simpa using hlive
      refine ⟨blank, ?_⟩
      split at h
      · cases h
        exact ⟨rfl, hblank⟩
      · split at h
        · cases h
        · split at h
          · cases h
          · cases h
            exact ⟨rfl, hblank⟩
  obtain ⟨blank, rfl, hblank⟩ := hnext
  refine ⟨fun e he => ?_, hblank⟩
  rcases List.mem_append.1 he with he | he
  · exact .inl (follow_mem he)
  · split at he
    · exact .inr (follow_mem he)
    · cases he

theorem Reading.step (hm : mode.Proper) (h : Reading mode offset start front best) {c : Char} {next : Front}
    (hn : front.step mode c = some next) :
    Reading mode (offset + 1) (if next.live.isEmpty then offset + 1 else start) next
      ((front.complete?.map (·, offset)).or best) := by
  obtain ⟨hlive, hblank⟩ := step_eq_some hn
  have hle := h.le
  have hbest := h.complete
  cases hempty : next.live with
  | nil =>
    refine ⟨Nat.le_refl _, fun hb => ?_, fun e he => ?_, fun e he => ?_⟩
    · rw [hblank hempty] at hb
      cases hb
    · rw [hempty] at he
      cases he
    · obtain ⟨hk, hstop, -⟩ := hbest e he
      exact ⟨hk, by omega, by simp; omega⟩
  | cons e es =>
    simp only [List.isEmpty_cons, Bool.false_eq_true, if_false]
    refine ⟨by omega, fun _ => by omega, fun e he => ⟨?_, fun _ => by omega⟩, fun e he => ?_⟩
    · rcases hlive e he with ⟨p, hp⟩ | ⟨p, hp⟩
      · exact (h.live _ hp).1
      · exact (hm _ (List.mem_append_right _ hp)).1
    · obtain ⟨hk, hstop, hne⟩ := hbest e he
      exact ⟨hk, by omega, hne⟩

end Reading

/-- What a scan of a text comes to: a token that shows in a tree and does not end where it starts, the end of the text,
or no token before the end of the text. -/
structure Fair (mode : Mode) (length : Nat) (scan : Scan) : Prop where
  le : scan.start ≤ scan.reached
  found : ∀ t, scan.found = some t → (t.kind?.isSome ∧ scan.stop ≠ scan.start ∧ scan.stop ≤ length)
    ∨ (t = .endOfInput ∧ scan.start ≤ scan.stop ∧ scan.stop = length)
  nothing : scan.found = none → mode.endOfInput → scan.start < length

variable {mode : Mode}

theorem scanFrom_fair (hm : mode.Proper) : ∀ (text : List Char) (offset start : Nat) (front : Front)
    (best : Option (Terminal × Nat)), Reading mode offset start front best →
    mode.Fair (offset + text.length) (mode.scanFrom offset start front best text)
  | [], offset, start, front, best, h => by
    have hbest := h.complete
    rw [scanFrom]
    split
    · refine ⟨h.le, fun t ht => .inr ?_, nofun⟩
      cases ht
      exact ⟨rfl, h.le, rfl⟩
    next hend =>
      split
      next t stop heq =>
        obtain ⟨hk, hstop, hne⟩ := hbest _ heq
        refine ⟨h.le, fun u hu => .inl ?_, nofun⟩
        cases hu
        exact ⟨hk, hne, hstop⟩
      next =>
        refine ⟨h.le, nofun, fun _ hmode => h.started ?_⟩
        simpa [hmode] using hend
  | c :: cs, offset, start, front, best, h => by
    have hbest := h.complete
    have hle := h.le
    simp only [scanFrom]
    split
    next next hn =>
      have hfair := scanFrom_fair hm cs _ _ _ _ (h.step hm hn)
      rw [List.length_cons, show offset + (cs.length + 1) = offset + 1 + cs.length by omega]
      exact hfair
    next =>
      split
      next t stop heq =>
        obtain ⟨hk, hstop, hne⟩ := hbest _ heq
        refine ⟨hle, fun u hu => .inl ?_, nofun⟩
        cases hu
        exact ⟨hk, hne, Nat.le_trans hstop (Nat.le_add_right _ _)⟩
      next =>
        refine ⟨hle, nofun, fun _ _ => ?_⟩
        rw [List.length_cons]
        simp only
        omega

theorem scan_fair (hm : mode.Proper) (cursor : Cursor) : mode.Fair cursor.rest.length (mode.scan cursor) := by
  have hfirst (i : Nat) : Reading mode i i (.start mode) none := by
    refine ⟨Nat.le_refl i, nofun, fun e he => ?_, nofun⟩
    obtain ⟨hk, hnull⟩ := hm e (List.mem_append_left _ he)
    refine ⟨hk, fun hn => ?_⟩
    rw [hnull] at hn
    cases hn
  unfold scan
  split
  next rest =>
    have h := scanFrom_fair hm rest 1 1 (.start mode) none (hfirst 1)
    rw [Nat.add_comm] at h
    exact h
  next p rest _ =>
    have h := scanFrom_fair hm rest 0 0 (.start mode) none (hfirst 0)
    rw [Nat.zero_add] at h
    exact h

end Mode

/-! ## Tokens found by their surroundings -/

namespace Context

/-- A token found by its surroundings in a text shows in a tree if it has text; if it has none, it does not show, and is
found where the search began. -/
structure Found.Fair (length : Nat) (f : Found) : Prop where
  le : f.start ≤ f.stop
  within : f.stop ≤ length
  shown : f.start < f.stop → f.terminal.kind?.isSome
  hidden : f.start = f.stop → f.terminal.kind? = none
  early : f.start = f.stop → f.start = 0

theorem fair_of_lt {length : Nat} {f : Found} (h : f.start < f.stop) (hle : f.stop ≤ length)
    (hk : f.terminal.kind?.isSome) : f.Fair length :=
  ⟨by omega, hle, fun _ => hk, fun _ => by omega, fun _ => by omega⟩

theorem question_fair : ∀ (text : List Char) (offset : Nat), ∀ f ∈ question offset text, f.Fair (offset + text.length)
  | [], _, f, h => by cases h
  | c :: rest, offset, f, h => by
    have hlength : offset + (c :: rest).length = offset + 1 + rest.length := by
      rw [List.length_cons]
      omega
    have hone : Found.Fair (offset + (c :: rest).length) ⟨.question, offset, offset + 1⟩ :=
      fair_of_lt (Nat.lt_succ_self offset) (by simp only; omega) rfl
    unfold question at h
    split at h
    next heq =>
      split at h
      · cases h
      · split at h
        · cases h
          exact hone
        · cases h
      · cases h
        exact hone
    next heq =>
      cases heq
      split at h
      · rw [hlength]
        exact question_fair _ _ f h
      · cases h
    next heq => cases heq

theorem lineLength_le (text : List Char) : lineLength text ≤ text.length := by
  induction text with
  | nil => exact Nat.le_refl 0
  | cons c rest ih =>
    rw [lineLength, List.length_cons]
    split <;> omega

theorem htmlComment_fair : ∀ (text : List Char) (offset : Nat), ∀ f ∈ htmlComment offset text,
    f.Fair (offset + text.length) ∧ f.start < f.stop
  | [], _, f, h => by cases h
  | c :: rest, offset, f, h => by
    have hone {length stop : Nat} (hlt : offset < stop) (hle : stop ≤ length) :
        Found.Fair length ⟨.htmlComment, offset, stop⟩ ∧ offset < stop := ⟨fair_of_lt hlt hle rfl, hlt⟩
    unfold htmlComment at h
    split at h
    next rest heq =>
      cases h
      have hle := lineLength_le rest
      rw [heq]
      exact hone (by omega) (by simp only [List.length_cons]; omega)
    next rest heq =>
      cases h
      have hle := lineLength_le rest
      rw [heq]
      exact hone (by omega) (by simp only [List.length_cons]; omega)
    next heq =>
      cases heq
      split at h
      · rw [List.length_cons, show offset + (rest.length + 1) = offset + 1 + rest.length by omega]
        exact htmlComment_fair _ _ f h
      · cases h
    next heq => cases heq

theorem templateLength_le : ∀ {text : List Char} {n : Nat}, templateLength text = some n → n ≤ text.length
  | [], n, h => by cases h
  | c :: rest, n, h => by
    unfold templateLength at h
    split at h
    · cases h
    · cases h
    · cases h
      exact Nat.zero_le _
    · cases h
      exact Nat.zero_le _
    · cases h
      exact Nat.zero_le _
    next heq =>
      cases heq
      obtain ⟨m, hm, rfl⟩ := Option.map_eq_some_iff.1 h
      exact Nat.succ_le_succ (templateLength_le hm)

/-- Markup that counts has text. -/
theorem markupLength_spec : ∀ (text : List Char) (offset : Nat) (solid afterBreak : Bool) {n : Nat} {solid' : Bool},
    markupLength offset solid afterBreak text = (n, solid') →
    offset ≤ n ∧ n ≤ offset + text.length ∧ (solid' → solid ∨ offset < n)
  | [], offset, solid, afterBreak, n, solid', h => by
    cases h
    exact ⟨Nat.le_refl _, Nat.le_refl _, .inl⟩
  | c :: rest, offset, solid, afterBreak, n, solid', h => by
    rw [markupLength] at h
    rw [List.length_cons]
    split at h
    · cases h
      exact ⟨Nat.le_refl _, by omega, .inl⟩
    · split at h
      · obtain ⟨hle, hle', -⟩ := markupLength_spec rest _ _ _ h
        exact ⟨by omega, by omega, fun _ => .inr (by omega)⟩
      · obtain ⟨hle, hle', -⟩ := markupLength_spec rest _ _ _ h
        exact ⟨by omega, by omega, fun _ => .inr (by omega)⟩

/-- Nothing gets lost behind a run of blanks and comments. -/
theorem pass_length (through : Bool) (phase : Phase) (lineBreak comment : Bool) (offset : Nat) (text : List Char) :
    (pass through phase lineBreak comment offset text).offset
      + (pass through phase lineBreak comment offset text).rest.length = offset + text.length := by
  fun_induction pass through phase lineBreak comment offset text <;> simp only [List.length_cons] at * <;> omega

theorem breaksBefore_length (comment : Bool) (offset : Nat) (text : List Char) :
    (breaksBefore comment offset text).offset + (breaksBefore comment offset text).rest.length
      ≤ offset + text.length := by
  unfold breaksBefore
  split
  · simp only [List.length_cons]; omega
  · simp only [List.length_cons]; omega
  · simp only [List.length_cons]; omega
  · simp only [List.length_cons]; omega
  next rest =>
    simp only
    split
    · simp only [List.length_cons]; omega
    · split
      next h =>
        have hprefix := (List.isPrefixOf_iff_prefix.1 (Bool.and_eq_true _ _ ▸ h).1).length_le
        simp only [List.length_cons, List.length_drop]
        omega
      · simp only [List.length_cons]; omega
  · exact Nat.le_refl _
  · exact Nat.le_refl _

theorem terminator_length (afterComment : Bool) : ∀ (fuel : Nat) (comment : Bool) (offset : Nat) (text : List Char),
    (terminator afterComment comment fuel offset text).offset
      + (terminator afterComment comment fuel offset text).rest.length ≤ offset + text.length
  | 0, _, _, _ => Nat.le_refl _
  | fuel + 1, comment, offset, text => by
    rw [terminator]
    generalize hpassed : (if startsWith (· == '/') text then pass false .between false comment offset text
      else (⟨.inlineComment, comment, offset, text⟩ : Passed)) = passed
    have hlength : passed.offset + passed.rest.length = offset + text.length := by
      rw [← hpassed]
      split
      · exact pass_length _ _ _ _ _ _
      · rfl
    obtain ⟨stop, comment', offset', rest⟩ := passed
    simp only at hlength ⊢
    split
    · exact Nat.le_of_eq hlength
    · split
      · exact Nat.le_of_eq hlength
      · split
        · exact Nat.le_of_eq hlength
        · split
          · exact Nat.le_of_eq hlength
          next c more _ _ =>
            rw [List.length_cons] at hlength
            split
            · have hafter := pass_length true .between false comment' (offset' + 1) more
              have hbreaks := breaksBefore_length (pass true .between false comment' (offset' + 1) more).comment
                (pass true .between false comment' (offset' + 1) more).offset
                (pass true .between false comment' (offset' + 1) more).rest
              split
              · simp only
                omega
              · omega
            · split
              · have hmore := terminator_length afterComment fuel comment' (offset' + 1) more
                omega
              · simp only [List.length_cons]
                omega
          · exact Nat.le_of_eq hlength

theorem search_fair {atStart : Bool} {allowed : List Terminal} {text : List Char} {f : Found}
    (h : search atStart allowed text = some f) : f.Fair text.length := by
  have hcomment {b : Bool} {offset : Nat} {rest : List Char} {f : Found}
      (h : (if b then htmlComment offset rest else none) = some f) :
      f.Fair (offset + rest.length) ∧ f.start < f.stop := by
    split at h
    · exact htmlComment_fair _ _ f h
    · cases h
  simp only [search] at h
  split at h
  · split at h
    · cases h
    · split at h
      next n hn =>
        cases h
        exact fair_of_lt (Nat.succ_pos _) (templateLength_le hn) rfl
      · cases h
  · split at h
    · split at h
      next n hn =>
        cases h
        obtain ⟨-, hle, hsolid⟩ := markupLength_spec _ _ _ _ hn
        have hpos := (hsolid rfl).resolve_left Bool.false_ne_true
        exact fair_of_lt hpos (by simpa using hle) rfl
      next n hn =>
        obtain ⟨-, hle, -⟩ := markupLength_spec _ _ _ _ hn
        obtain ⟨g, hg, rfl⟩ := Option.map_eq_some_iff.1 h
        obtain ⟨hfair, hlt⟩ := hcomment hg
        have hwithin := hfair.within
        rw [List.length_drop, Nat.add_sub_cancel' (by omega)] at hwithin
        split
        · exact fair_of_lt (Nat.lt_of_le_of_lt (Nat.zero_le _) hlt) hwithin (hfair.shown hlt)
        · exact fair_of_lt hlt hwithin (hfair.shown hlt)
    · split at h
      · split at h
        · cases h
          exact ⟨Nat.le_refl 0, Nat.zero_le _, nofun, fun _ => rfl, fun _ => rfl⟩
        · split at h
          · have hquestion := question_fair _ _ f h
            have hlength := terminator_length (!allowed.contains .logicalOr) (text.length + 1) false 0 text
            exact ⟨hquestion.le, by have := hquestion.within; omega, hquestion.shown, hquestion.hidden, hquestion.early⟩
          · cases h
      · split at h
        · have := question_fair _ _ f h
          rwa [Nat.zero_add] at this
        · have := (hcomment h).1
          rwa [Nat.zero_add] at this

/-- As `Found.Fair`; a byte order mark at the start of the source may precede the place of a token without text. -/
theorem scan_fair {allowed : List Terminal} {cursor : Cursor} {f : Found} (h : scan allowed cursor = some f) :
    f.start ≤ f.stop ∧ f.stop ≤ cursor.rest.length ∧ (f.start < f.stop → f.terminal.kind?.isSome)
      ∧ (f.start = f.stop → f.terminal.kind? = none ∧ (f.start = 0 ∨ cursor.position.byte = 0)) := by
  unfold scan at h
  split at h
  · obtain ⟨g, hg, rfl⟩ := Option.map_eq_some_iff.1 h
    have hfair := search_fair hg
    exact ⟨Nat.succ_le_succ hfair.le, Nat.succ_le_succ hfair.within,
      fun hlt => hfair.shown (Nat.lt_of_succ_lt_succ hlt), fun he => ⟨hfair.hidden (Nat.succ.inj he), .inr rfl⟩⟩
  · have hfair := search_fair h
    exact ⟨hfair.le, hfair.within, hfair.shown, fun he => ⟨hfair.hidden he, .inl (hfair.early he)⟩⟩

end Context

/-! ## The part that a token becomes -/

namespace Parser

/-- The part at a cursor covers the text up to where it stops. -/
theorem covers_leafAt {cursor : Cursor} {start stop : Nat} (h : start ≤ stop) {leaf : List Char → Leaf} {extra : Bool}
    (ht : ∀ text, text = (cursor.rest.drop start).take (stop - start) → (leaf text).text = text)
    (hf : ∀ text, text = (cursor.rest.drop start).take (stop - start) →
      (leaf text).Fits (cursor.rest.take start) cursor (cursor.advance stop)) :
    (leafAt cursor start stop leaf extra).Covers cursor (cursor.advance stop) := by
  have hrest := Cursor.leads_advance (stop - start) (cursor.advance start)
  rw [← Cursor.advance_add, Nat.add_sub_cancel' h, Cursor.rest_advance] at hrest
  refine ⟨⟨cursor.advance start, Cursor.leads_advance start cursor, rfl, ?_⟩, rfl, hf _ rfl⟩
  rw [ht _ rfl]
  exact hrest

theorem text_tokenLeaf (t : Terminal) (text : List Char) : (tokenLeaf t text).text = text := by
  cases text <;> rfl

/-- A token fits if it shows in a tree or ends the source; without text, also at the very start. -/
theorem fits_tokenLeaf {t : Terminal} {gap text : List Char} {a b : Cursor} (hk : t.kind?.isSome ∨ b.rest = [])
    (hg : text = [] → (gap = [] ∨ a.position.byte = 0) ∨ b.rest = []) : (tokenLeaf t text).Fits gap a b := by
  cases text with
  | nil =>
    rcases hg rfl with h | h
    · exact .inl ⟨rfl, h⟩
    · exact .inr h
  | cons c cs =>
    simp only [tokenLeaf, Leaf.Fits, Leaf.kind?]
    cases hkind : t.kind? with
    | some kind => exact fun h => absurd h (List.cons_ne_nil c cs)
    | none =>
      rw [hkind] at hk
      exact .inr (hk.resolve_left Bool.false_ne_true)

/-- Behind a token without text whose place is not its start, the source is at its end. -/
theorem rest_eq_nil_of_take {text : List Char} {start stop : Nat} (h : start < stop)
    (ht : (text.drop start).take (stop - start) = []) : text.drop stop = [] := by
  have hlen := congrArg List.length ht
  rw [List.length_take, List.length_drop, List.length_nil] at hlen
  exact List.drop_eq_nil_of_le (by omega)

theorem kind?_asWord {state : Nat} {t : Terminal} {text : List Char} (h : t.kind?.isSome) :
    (asWord state t text).kind?.isSome := by
  have hkeyword : ∀ e ∈ keywordTable, e.2.kind?.isSome := by decide +kernel
  unfold asWord
  split
  next word hword =>
    split
    · obtain ⟨l₁, l₂, heq, -⟩ := List.lookup_eq_some_iff.1 hword
      exact hkeyword (text, word) (by rw [heq]; simp)
    · exact h
  · exact h

theorem covers_patternLeaf {state : Nat} {cursor : Cursor} {t : Terminal} {start stop : Nat}
    (h : (t.kind?.isSome ∧ stop ≠ start ∧ stop ≤ cursor.rest.length)
      ∨ (t = .endOfInput ∧ start ≤ stop ∧ stop = cursor.rest.length)) :
    ∃ b, (patternLeaf state cursor t start stop).Covers cursor b := by
  refine ⟨cursor.advance stop, ?_⟩
  unfold patternLeaf
  split
  next hlt =>
    obtain ⟨hk, -⟩ := h.resolve_right (by omega)
    refine covers_leafAt (Nat.le_refl stop) (fun text htext => ?_) (fun text htext => ?_)
    · rw [htext, Nat.sub_self, List.take_zero]
      rfl
    · obtain ⟨kind, hkind⟩ := Option.isSome_iff_exists.1 hk
      simp only [Leaf.Fits, Leaf.kind?, hkind]
      exact fun _ => rfl
  next hge =>
    have hle : start ≤ stop := by omega
    have hend : stop = cursor.rest.length → (cursor.advance stop).rest = [] := by
      rintro rfl
      rw [Cursor.rest_advance, List.drop_length]
    refine covers_leafAt hle (fun text _ => text_tokenLeaf _ text) (fun text htext => fits_tokenLeaf ?_ ?_)
    · rcases h with ⟨hk, -⟩ | ⟨-, -, hstop⟩
      · exact .inl (kind?_asWord hk)
      · exact .inr (hend hstop)
    · rintro rfl
      rcases h with ⟨-, hne, -⟩ | ⟨-, -, hstop⟩
      · rw [Cursor.rest_advance]
        exact .inr (rest_eq_nil_of_take (by omega) htext.symm)
      · exact .inr (hend hstop)

/-- The next token of a reading covers the text from where the reading has come to. -/
theorem covers_lex (state : Nat) (advanced : Bool) (cursor : Cursor) :
    ∃ b, (lex state advanced cursor).Covers cursor b := by
  have herror : (Mode.ofIndex (Grammar.modeOf Grammar.errorState)).endOfInput = true := by decide +kernel
  have hscan := Mode.scan_fair (Mode.proper_ofIndex (Grammar.modeOf state)) cursor
  have hstray := Mode.scan_fair (Mode.proper_ofIndex (Grammar.modeOf Grammar.errorState)) cursor
  unfold lex
  simp only
  split
  next f hf =>
    obtain ⟨hle, -, hshown, hearly⟩ := Context.scan_fair (Option.filter_eq_some_iff.1 hf).1
    refine ⟨_, covers_leafAt hle (fun text _ => text_tokenLeaf _ text) (fun text htext => ?_)⟩
    by_cases hlt : f.start < f.stop
    · refine fits_tokenLeaf (.inl (hshown hlt)) ?_
      rintro rfl
      rw [Cursor.rest_advance]
      exact .inr (rest_eq_nil_of_take hlt htext.symm)
    · have heq : f.start = f.stop := by omega
      rw [heq, Nat.sub_self, List.take_zero] at htext
      rw [htext]
      refine .inl ⟨rfl, ?_⟩
      rcases (hearly heq).2 with h0 | hbyte
      · rw [h0]
        exact .inl rfl
      · exact .inr hbyte
  next =>
    split
    next t ht =>
      exact covers_patternLeaf (hscan.found t ht)
    next =>
      split
      next t ht =>
        exact covers_patternLeaf (hstray.found t ht)
      next hnone =>
        have hreached := hstray.le
        have hlt := hstray.nothing hnone herror
        generalize (Mode.ofIndex (Grammar.modeOf Grammar.errorState)).scan cursor = scan at hreached hlt ⊢
        generalize hnext : (if scan.reached = scan.start then scan.start + 1 else scan.reached) = next
        have hstart : scan.start < next := by
          rw [← hnext]
          split <;> omega
        refine ⟨_, covers_leafAt (by omega) (fun text _ => rfl) (fun text htext => ?_)⟩
        intro hnil
        have hlen := congrArg List.length (htext.symm.trans hnil)
        rw [List.length_take, List.length_drop, List.length_nil] at hlen
        omega

/-- A token that shows has text if it stops behind its start in the source. -/
theorem isToken_leafAt {cursor : Cursor} {t : List Char → Terminal} {start stop : Nat} {extra : Bool}
    (h : start < stop ∧ stop ≤ cursor.rest.length ∨ ∀ text, (t text).kind? = none) :
    (leafAt cursor start stop (fun text => tokenLeaf (t text) text) extra).isToken := by
  show (tokenLeaf (t _) ((cursor.rest.drop start).take (stop - start))).isFair
  cases htext : (cursor.rest.drop start).take (stop - start) with
  | cons c cs => rfl
  | nil =>
    rcases h with ⟨hlt, hle⟩ | hhidden
    · have hlen := congrArg List.length htext
      rw [List.length_take, List.length_drop, List.length_nil] at hlen
      omega
    · show (t []).kind?.isNone
      rw [hhidden]
      rfl

theorem isToken_patternLeaf {state : Nat} {cursor : Cursor} {t : Terminal} {start stop : Nat}
    (h : (t.kind?.isSome ∧ stop ≠ start ∧ stop ≤ cursor.rest.length)
      ∨ (t = .endOfInput ∧ start ≤ stop ∧ stop = cursor.rest.length)) :
    (patternLeaf state cursor t start stop).isToken := by
  unfold patternLeaf
  split
  · rfl
  next hge =>
    refine isToken_leafAt ?_
    rcases h with ⟨-, hne, hle⟩ | ⟨rfl, -, -⟩
    · exact .inl ⟨by omega, hle⟩
    · exact .inr fun text => rfl

/-- The next token of a reading has text if it is to show. -/
theorem isToken_lex (state : Nat) (advanced : Bool) (cursor : Cursor) : (lex state advanced cursor).isToken := by
  have hscan := Mode.scan_fair (Mode.proper_ofIndex (Grammar.modeOf state)) cursor
  have hstray := Mode.scan_fair (Mode.proper_ofIndex (Grammar.modeOf Grammar.errorState)) cursor
  unfold lex
  simp only
  split
  next f hf =>
    obtain ⟨hle, hwithin, -, hhidden⟩ := Context.scan_fair (Option.filter_eq_some_iff.1 hf).1
    refine isToken_leafAt (t := fun _ => f.terminal) ?_
    rcases Nat.eq_or_lt_of_le hle with heq | hlt
    · exact .inr fun _ => (hhidden heq).1
    · exact .inl ⟨hlt, hwithin⟩
  · split
    next t ht => exact isToken_patternLeaf (hscan.found t ht)
    · split
      next t ht => exact isToken_patternLeaf (hstray.found t ht)
      · rfl

theorem isToken_asName {s name : Subtree} (h : asName s = some name) : name.isToken := by
  unfold asName at h
  split at h
  · split at h
    · cases h
      rfl
    · cases h
  · cases h

/-- A keyword read as a name covers what it covers. -/
theorem covers_asName {s name : Subtree} {a b : Cursor} (h : asName s = some name) (hs : s.Covers a b) :
    name.Covers a b := by
  unfold asName at h
  split at h
  · split at h
    · cases h
      exact ⟨hs.1, hs.2.1, fun hnil => by cases hnil⟩
    · cases h
  · cases h

end Parser
end Bookmarklet.Script
