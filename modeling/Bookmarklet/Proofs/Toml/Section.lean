import Bookmarklet.Proofs.Lookup
import Bookmarklet.Proofs.Toml.Literal

/-!
# Sections

A document of sections, each a header with one key and its value, and empty lines between them (`document`). Line by
line it is read into two statements for each section (`readStatements_document`), and these make the table of the
sections, if their titles differ (`build_sections`). So the table is read back from its document (`parse?_document`).
-/

namespace Bookmarklet.Toml

/-- A section: a title, and a key with what stands for its value. -/
structure Section where
  title : String
  key : String
  literal : List Char
  value : Value

/-- A name that needs no quotes as a key. -/
def IsBare (name : String) : Prop := name ≠ "" ∧ name.toList.all isKeyChar

instance (name : String) : Decidable (IsBare name) := inferInstanceAs (Decidable (_ ∧ _))

namespace Section

/-- The lines of a section. -/
def text (s : Section) : List Char :=
  '[' :: s.title.toList ++ ']' :: '\n' :: s.key.toList ++ " = ".toList ++ s.literal ++ ['\n']

/-- What the lines of a section say. -/
def statements (s : Section) : List Statement := [.table [] s.title, .pair [] s.key s.value]

/-- The table that a section is. -/
def entry (s : Section) : String × Value := (s.title, .table .header [(s.key, s.value)])

/-- The title and the key of a section need no quotes, and its literal spells its value. -/
structure WellFormed (s : Section) : Prop where
  title : IsBare s.title
  key : IsBare s.key
  literal : Spells s.literal s.value

end Section

/-- Sections with empty lines between them. -/
def document : List Section → List Char
  | [] => []
  | [s] => s.text
  | s :: rest => s.text ++ '\n' :: document rest

/-! ## Keys -/

section Keys

theorem skipBlanks_of_head? {text : List Char} (h : text.head?.any isBlank = false) : skipBlanks text = text := by
  cases text with
  | nil => rfl
  | cons c cs =>
    have hc : isBlank c = false := by simpa using h
    rw [skipBlanks, List.dropWhile_cons_of_neg (by simp [hc])]

variable {name : String} {rest : List Char}

theorem IsBare.exists_cons (h : IsBare name) : ∃ c cs, name.toList = c :: cs ∧ isKeyChar c := by
  obtain ⟨hne, hall⟩ := h
  cases hname : name.toList with
  | nil => exact absurd (String.toList_eq_nil_iff.1 hname) hne
  | cons c cs => exact ⟨c, cs, rfl, List.all_eq_true.1 hall c (hname ▸ List.mem_cons_self)⟩

/-- A sign that is no part of bare keys does not start one. -/
theorem IsBare.append_ne_cons (h : IsBare name) {c : Char} {cs : List Char} (hc : isKeyChar c = false) :
    name.toList ++ rest ≠ c :: cs := by
  obtain ⟨d, ds, hname, hd⟩ := h.exists_cons
  rw [hname, List.cons_append]
  intro heq
  cases heq
  exact Bool.false_ne_true (hc.symm.trans hd)

theorem IsBare.skipBlanks (h : IsBare name) : skipBlanks (name.toList ++ rest) = name.toList ++ rest := by
  obtain ⟨c, cs, hname, hc⟩ := h.exists_cons
  have hspace : c ≠ ' ' := by
    rintro rfl
    cases hc
  have htab : c ≠ '\t' := by
    rintro rfl
    cases hc
  refine skipBlanks_of_head? ?_
  simp [hname, isBlank, hspace, htab]

theorem IsBare.readKeyPart (h : IsBare name) (hrest : rest.head?.any isKeyChar = false) :
    readKeyPart (name.toList ++ rest) = some (name.toList, rest) := by
  have hall : ∀ c ∈ name.toList, isKeyChar c := List.all_eq_true.1 h.2
  have htake : (name.toList ++ rest).takeWhile isKeyChar = name.toList := by
    rw [List.takeWhile_append_of_pos hall]
    cases rest with
    | nil => simp
    | cons c cs => simp_all
  have hdrop : (name.toList ++ rest).dropWhile isKeyChar = rest := by
    rw [List.dropWhile_append_of_pos hall]
    cases rest with
    | nil => simp
    | cons c cs => simp_all
  unfold Toml.readKeyPart
  split
  next heq => exact absurd heq (h.append_ne_cons (by decide))
  next heq => exact absurd heq (h.append_ne_cons (by decide))
  next => simp [htake, hdrop, h.1]

/-- A bare key is read up to a sign that is neither part of it nor a dot. -/
theorem IsBare.readKey (h : IsBare name) (hrest : rest.head?.any isKeyChar = false)
    (hdot : (Toml.skipBlanks rest).head? ≠ some '.') (limit : Nat) :
    readKey (limit + 1) (name.toList ++ rest) = some ([], name, Toml.skipBlanks rest) := by
  simp only [Toml.readKey, h.skipBlanks, h.readKeyPart hrest, Option.bind_eq_bind, Option.bind_some]
  split
  next heq => exact absurd (by rw [heq]; rfl) hdot
  next => rw [String.ofList_toList]; rfl

end Keys

/-! ## Lines -/

section Lines

variable {rest : List Char} {statement : Statement} {fuel : Nat}

theorem readStatement_header {title : String} (h : IsBare title) :
    readStatement ('[' :: (title.toList ++ ']' :: '\n' :: rest)) = some (.table [] title, rest) := by
  have hkey : readKey depthLimit (title.toList ++ ']' :: '\n' :: rest) = some ([], title, ']' :: '\n' :: rest) :=
    h.readKey rfl (by simp [skipBlanks, isBlank]) _
  have hheader : readHeader ('[' :: (title.toList ++ ']' :: '\n' :: rest)) = some (.table [] title, '\n' :: rest) := by
    unfold readHeader
    split
    -- The title starts with no bracket, so this is not the header of a series.
    next heq => exact absurd (List.cons.inj heq).2 (h.append_ne_cons (by decide))
    next heq =>
      cases heq
      rw [hkey]
      rfl
    next hne => exact absurd rfl (hne _)
  unfold readStatement
  simp only [hheader]
  rfl

theorem readStatement_pair {key : String} (h : IsBare key) {literal : List Char} {v : Value} (hv : Spells literal v)
    (rest : List Char) :
    readStatement (key.toList ++ (" = ".toList ++ (literal ++ '\n' :: rest))) = some (.pair [] key v, rest) := by
  have hkey : readKey depthLimit (key.toList ++ (" = ".toList ++ (literal ++ '\n' :: rest)))
      = some ([], key, '=' :: ' ' :: (literal ++ '\n' :: rest)) :=
    h.readKey rfl (by simp [skipBlanks, isBlank]) _
  have hhead : (literal ++ '\n' :: rest).head?.any isBlank = false := by
    cases literal with
    | nil => rfl
    | cons c cs => exact hv.1
  have hliteral : skipBlanks (' ' :: (literal ++ '\n' :: rest)) = literal ++ '\n' :: rest := by
    rw [skipBlanks, List.dropWhile_cons_of_pos (by decide)]
    exact skipBlanks_of_head? hhead
  have hpair : readPair (readValue depthLimit) (key.toList ++ (" = ".toList ++ (literal ++ '\n' :: rest)))
      = some ([], key, v, '\n' :: rest) := by
    simp only [readPair, hkey, Option.bind_eq_bind, Option.bind_some, hliteral, hv.2]
    rfl
  unfold readStatement
  split
  next heq => exact absurd heq (h.append_ne_cons (by decide))
  next =>
    rw [hpair]
    rfl

/-- A line that starts with a bare key or a bracket holds a statement. -/
theorem readStatements_cons {c : Char} {cs : List Char} (hc : isKeyChar c ∨ c = '[')
    (h : readStatement (c :: cs) = some (statement, rest)) :
    readStatements (fuel + 1) (c :: cs) = (readStatements fuel rest).map (statement :: ·) := by
  have hsign {d : Char} (hd : isKeyChar d = false) (hne : d ≠ '[') : c ≠ d := by
    rintro rfl
    exact hc.elim (fun hc => Bool.false_ne_true (hd.symm.trans hc)) hne
  have hspace : c ≠ ' ' := hsign (by decide) (by decide)
  have htab : c ≠ '\t' := hsign (by decide) (by decide)
  have hskip : skipBlanks (c :: cs) = c :: cs := skipBlanks_of_head? (by simp [isBlank, hspace, htab])
  have hline : readLineEnd false (c :: cs) = none := by
    have hfeed : c ≠ '\n' := hsign (by decide) (by decide)
    have hreturn : c ≠ '\r' := hsign (by decide) (by decide)
    have hmark : c ≠ '#' := hsign (by decide) (by decide)
    rw [readLineEnd]
    · simp [isBlank, hspace, htab, hmark]
    · exact hfeed
    · exact fun _ h _ => hreturn h
  rw [readStatements, hskip]
  simp only [hline, h, Option.bind_eq_bind, Option.bind_some]
  cases readStatements fuel rest <;> rfl

theorem readStatements_emptyLine : readStatements (fuel + 1) ('\n' :: rest) = readStatements fuel rest := by
  rw [readStatements, skipBlanks_of_head? rfl]
  rfl

/-- The lines of a section are read into its statements. -/
theorem readStatements_section {s : Section} (h : s.WellFormed) :
    readStatements (fuel + 2) (s.text ++ rest) = (readStatements fuel rest).map (s.statements ++ ·) := by
  have htext : s.text ++ rest
      = '[' :: (s.title.toList ++ ']' :: '\n' :: (s.key.toList ++ (" = ".toList ++ (s.literal ++ '\n' :: rest)))) := by
    simp [Section.text]
  obtain ⟨c, cs, hkey, hc⟩ := h.key.exists_cons
  have hpair := readStatement_pair h.key h.literal rest
  rw [htext, readStatements_cons (.inr rfl) (readStatement_header h.title)]
  rw [hkey, List.cons_append] at hpair ⊢
  rw [readStatements_cons (.inl hc) hpair, Option.map_map]
  rfl

end Lines

/-! ## Documents -/

/-- The lines of sections are read into their statements: in three steps each, of which one is for the empty line. -/
theorem readStatements_document : ∀ {sections : List Section} (_ : ∀ s ∈ sections, s.WellFormed) {fuel : Nat}
    (_ : 3 * sections.length < fuel),
    readStatements fuel (document sections) = some (sections.flatMap Section.statements)
  | [], _, fuel + 1, _ => rfl
  | [s], h, fuel + 3, _ => by
    have hend : readStatements (fuel + 1) [] = some [] := rfl
    rw [document, ← List.append_nil s.text, readStatements_section (h s List.mem_cons_self), hend]
    rfl
  | s :: next :: rest, h, fuel + 3, hfuel => by
    have hrest : readStatements fuel (document (next :: rest)) = some ((next :: rest).flatMap Section.statements) :=
      readStatements_document (fun s hs => h s (List.mem_cons_of_mem _ hs))
        (by simp only [List.length_cons] at hfuel ⊢; omega)
    rw [document, readStatements_section (h s List.mem_cons_self), readStatements_emptyLine, hrest]
    · rfl
    · nofun

theorem length_document (sections : List Section) : 3 * sections.length ≤ (document sections).length := by
  have htext (s : Section) : 3 ≤ s.text.length := by
    simp only [Section.text, List.length_append, List.length_cons]
    omega
  fun_induction document sections with
  | case1 => simp
  | case2 s => simpa using htext s
  | case3 s rest hne ih =>
    simp only [List.length_cons, List.length_append]
    have := htext s
    omega

section Build

variable {opened : List String} {t : Table}

theorem lookup_append_singleton {key : String} (h : key ∉ t.map (·.1)) (v : Value) :
    (t ++ [(key, v)]).lookup key = some v := by
  rw [List.lookup_append, lookup_eq_none_of_not_mem h]
  simp

theorem replace_of_not_mem {key : String} (h : key ∉ t.map (·.1)) (new : Value) : t.replace key new = t := by
  have hother : ∀ m ∈ t, (if m.1 = key then (m.1, new) else (m.1, m.2)) = m := fun m hm =>
    if_neg fun heq : m.1 = key => h (heq ▸ List.mem_map_of_mem hm)
  exact (List.map_congr_left hother).trans (List.map_id t)

theorem replace_append_singleton {key : String} (h : key ∉ t.map (·.1)) (old new : Value) :
    Table.replace key new (t ++ [(key, old)]) = t ++ [(key, new)] := by
  have hkept := replace_of_not_mem h new
  rw [Table.replace] at hkept ⊢
  rw [List.map_append, hkept]
  simp

/-- The statements of a section add it to a table in which its title is new. -/
theorem build_section {s : Section} (h : s.title ∉ t.map (·.1)) (rest : List Statement) :
    build opened t (s.statements ++ rest) = build [s.title] (t ++ [s.entry]) rest := by
  have hopen : t.openTable [] s.title = some (t ++ [(s.title, .table .header [])]) := by
    simp [Table.openTable, Table.changeAt, lookup_eq_none_of_not_mem h]
  have hinsert :
      Table.insert [s.title] [] s.key s.value (t ++ [(s.title, .table .header [])]) = some (t ++ [s.entry]) := by
    simp [Table.insert, Table.changeAt, Table.insertHere, lookup_append_singleton h, replace_append_singleton h,
      Section.entry]
  simp only [Section.statements, List.cons_append, List.nil_append, build, hopen, hinsert, Option.bind_eq_bind,
    Option.bind_some]

/-- The statements of sections with different titles make the table of the sections. -/
theorem build_sections {sections : List Section} (h : (t.map (·.1) ++ sections.map (·.title)).Nodup) :
    build opened t (sections.flatMap Section.statements) = some (t ++ sections.map Section.entry) := by
  induction sections generalizing opened t with
  | nil => simp [build]
  | cons s sections ih =>
    have hs : s.title ∉ t.map (·.1) := fun hm =>
      List.disjoint_of_nodup_append h hm (List.mem_map_of_mem List.mem_cons_self)
    rw [List.flatMap_cons, build_section hs, ih]
    · simp
    · simpa [Section.entry] using h

end Build

/-- Sections with different titles are read back from their document as their table. -/
theorem parse?_document {sections : List Section} (h : ∀ s ∈ sections, s.WellFormed)
    (hd : (sections.map (·.title)).Nodup) : parse? (document sections) = some (sections.map Section.entry) := by
  have hmark : dropByteOrderMark (document sections) = document sections := by
    match sections with
    | [] | [_] | _ :: _ :: _ => rfl
  have hread := readStatements_document h (Nat.lt_succ_of_le (length_document sections))
  have hbuild : build [] [] (sections.flatMap Section.statements) = some ([] ++ sections.map Section.entry) :=
    build_sections (by simpa using hd)
  simp only [parse?, hmark, hread, Option.bind_eq_bind, Option.bind_some]
  exact hbuild

end Bookmarklet.Toml
