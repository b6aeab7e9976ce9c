import Bookmarklet.Assist.Reply
import Bookmarklet.Proofs.Text.Lines
import Bookmarklet.Proofs.Text.Trim

/-!
# The items of lists

A line of a list (`ItemLine`) is indented, may have a mark and a space before its item, and blanks behind it. What is
left of it is its item (`ItemLine.stripMark_trim`), except where a mark has no item behind it: trimming takes away the
space by which the mark is known, and the sign is left (`ItemMark.trim_text`). So the items of a text are recovered
exactly if none of its lines has a mark only (`bulletLines_listText`); a line with only a mark does not vanish
(`not_forall_bulletLines_eq`).
-/

namespace Bookmarklet.Assist

open Text

/-- A sign that marks the items of a list: a bullet, or a number with a point or a bracket. -/
inductive IsSign : List Char → Prop
  | bullet {c : Char} : c ∈ bullets → IsSign [c]
  | number {digits : List Char} {close : Char} : digits ≠ [] → (∀ d ∈ digits, d.isDigit) → close = '.' ∨ close = ')' →
      IsSign (digits ++ [close])

/-- Blanks that stay on a line. -/
def IsGap (gap : List Char) : Prop := gap.all isBlank ∧ '\n' ∉ gap

/-- The mark of an item: a sign and a space, and more blanks. -/
structure ItemMark where
  sign : List Char
  gap : List Char
  isSign : IsSign sign
  isGap : IsGap gap

/-- A line of a list. Its item is trimmed, and does not begin with a mark itself. -/
structure ItemLine where
  indent : List Char
  mark : Option ItemMark
  item : List Char
  trailing : List Char
  indent_isGap : IsGap indent
  trailing_isGap : IsGap trailing
  trim_item : trim item = item
  newline_notMem_item : '\n' ∉ item
  unmarked : ∀ sign, IsSign sign → ¬sign ++ [' '] <+: item

/-- A mark as it is written. -/
def ItemMark.text (m : ItemMark) : List Char := m.sign ++ ' ' :: m.gap

namespace ItemLine

/-- A line as it is written. -/
def text (l : ItemLine) : List Char := l.indent ++ ((l.mark.elim [] ItemMark.text) ++ l.item) ++ l.trailing

/-- What is left of a line: its item, or its sign if it has only that. -/
def kept (l : ItemLine) : List Char := if l.item = [] then l.mark.elim [] ItemMark.sign else l.item

end ItemLine

/-- The text of a list, one line below the other. -/
def listText (lines : List ItemLine) : List Char := ['\n'].intercalate (lines.map ItemLine.text)

/-! ## Signs -/

theorem isBlank_of_isDigit {c : Char} (h : c.isDigit) : isBlank c = false := by
  have hrange : 48 ≤ c.toNat ∧ c.toNat ≤ 57 := by simpa [Char.isDigit, UInt32.le_iff_toNat_le] using h
  rw [isBlank, List.any_eq_false]
  intro range hmem
  simp only [blankRanges, List.mem_cons, List.not_mem_nil, or_false] at hmem
  rcases hmem with rfl | rfl | rfl | rfl | rfl | rfl | rfl | rfl | rfl | rfl <;>
    simp only [Bool.and_eq_true, decide_eq_true_eq] <;> omega

/-- A sign consists of characters other than blanks. -/
theorem IsSign.isBlank_of_mem {sign : List Char} (h : IsSign sign) {c : Char} (hc : c ∈ sign) : isBlank c = false := by
  cases h with
  | bullet hbullet =>
    have hall : bullets.all (!isBlank ·) = true := by decide
    rw [List.mem_singleton.1 hc]
    simpa using List.all_eq_true.1 hall _ hbullet
  | number _ hdigits hclose =>
    rcases List.mem_append.1 hc with hc | hc
    · exact isBlank_of_isDigit (hdigits c hc)
    · rw [List.mem_singleton.1 hc]
      rcases hclose with rfl | rfl <;> decide

/-- A sign has a first character. -/
theorem IsSign.exists_cons {sign : List Char} (h : IsSign sign) : ∃ c cs, sign = c :: cs ∧ isBlank c = false := by
  obtain ⟨c, cs, rfl⟩ := List.exists_cons_of_ne_nil (show sign ≠ [] by cases h <;> simp)
  exact ⟨c, cs, rfl, h.isBlank_of_mem List.mem_cons_self⟩

/-- No sign and space is a part of a sign. -/
theorem IsSign.unmarked {sign : List Char} (h : IsSign sign) :
    ∀ other, IsSign other → ¬other ++ [' '] <+: sign := by
  intro other _ hprefix
  have hspace : ' ' ∈ sign := hprefix.subset (by simp)
  exact absurd (h.isBlank_of_mem hspace) (by decide)

/-! ## Marks are stripped -/

/-- What is taken off as a number is a sign with a space behind it. -/
theorem exists_sign_of_afterNumber? {line rest : List Char} (h : afterNumber? line = some rest) :
    ∃ sign, IsSign sign ∧ sign ++ [' '] <+: line := by
  unfold afterNumber? at h
  split at h
  next close behind hbehind =>
    split at h
    next hcond =>
      simp only [Bool.and_eq_true, Bool.or_eq_true, beq_iff_eq] at hcond
      have hline : line.takeWhile Char.isDigit ++ close :: ' ' :: behind = line := by
        rw [← hbehind, List.takeWhile_append_dropWhile]
      refine ⟨line.takeWhile Char.isDigit ++ [close], .number ?_ (fun d => List.mem_takeWhile_imp) hcond.2, behind, ?_⟩
      · -- the line starts with a digit
        cases line with
        | nil => cases hbehind
        | cons d ds =>
          rw [List.takeWhile_cons, if_pos (by simpa using hcond.1)]
          exact List.cons_ne_nil _ _
      · rw [List.append_assoc, List.append_assoc]
        exact hline
    next => cases h
  next => cases h

/-- A line without a mark stays as it is. -/
theorem stripMark_of_unmarked {line : List Char} (h : ∀ sign, IsSign sign → ¬sign ++ [' '] <+: line) :
    stripMark line = line := by
  have hnumber : afterNumber? line = none := by
    cases hafter : afterNumber? line with
    | none => rfl
    | some rest =>
      obtain ⟨sign, hsign, hprefix⟩ := exists_sign_of_afterNumber? hafter
      exact absurd hprefix (h sign hsign)
  unfold stripMark
  split
  next c rest =>
    rw [if_neg, hnumber, Option.getD_none]
    intro hbullet
    exact h [c] (.bullet (by simpa using hbullet)) ⟨rest, rfl⟩
  next => rw [hnumber, Option.getD_none]

/-- A number with a point or a bracket and a space is taken off. -/
theorem afterNumber?_append {digits : List Char} {close : Char} (hne : digits ≠ []) (hdigits : ∀ d ∈ digits, d.isDigit)
    (hclose : close = '.' ∨ close = ')') (rest : List Char) :
    afterNumber? (digits ++ close :: ' ' :: rest) = some (trimStart rest) := by
  have hnot : ¬close.isDigit = true := by rcases hclose with rfl | rfl <;> decide
  have hfirst : (digits ++ close :: ' ' :: rest).head?.any Char.isDigit = true := by
    obtain ⟨d, ds, rfl⟩ := List.exists_cons_of_ne_nil hne
    simpa using hdigits d List.mem_cons_self
  rw [afterNumber?, List.dropWhile_append_of_pos hdigits, List.dropWhile_cons, if_neg hnot]
  simp only [hfirst, Bool.true_and, Bool.or_eq_true, beq_iff_eq]
  rw [if_pos hclose]

/-- A sign with a space behind it is taken off, and so are the blanks that follow. -/
theorem IsSign.stripMark_append {sign : List Char} (h : IsSign sign) (rest : List Char) :
    stripMark (sign ++ ' ' :: rest) = trimStart rest := by
  cases h with
  | @bullet c hbullet =>
    have hcontains : bullets.contains c = true := by simpa using hbullet
    rw [List.singleton_append, stripMark, if_pos hcontains]
  | @number digits close hne hdigits hclose =>
    have hnumber : afterNumber? (digits ++ [close] ++ ' ' :: rest) = some (trimStart rest) := by
      rw [List.append_assoc, List.singleton_append, afterNumber?_append hne hdigits hclose]
    obtain ⟨d, ds, rfl⟩ := List.exists_cons_of_ne_nil hne
    have hall : bullets.all (!Char.isDigit ·) = true := by decide
    unfold stripMark
    split
    next c behind heq =>
      -- a digit is no bullet
      have hfirst : d = c := (List.cons.inj heq).1
      rw [if_neg, hnumber, Option.getD_some]
      intro hbullet
      have hnot : c.isDigit = false := by simpa using List.all_eq_true.1 hall c (by simpa using hbullet)
      have hdigit : c.isDigit = true := hfirst ▸ hdigits d List.mem_cons_self
      rw [hnot] at hdigit
      cases hdigit
    next => rw [hnumber, Option.getD_some]

/-! ## Marks and items -/

namespace ItemMark

variable (m : ItemMark)

/-- The sign of a mark is left: trimming takes away the space behind it. -/
theorem trim_text : trim m.text = m.sign := by
  obtain ⟨c, cs, hsign, hc⟩ := m.isSign.exists_cons
  have hnil : ([] : List Char).all isBlank := rfl
  have hblank : (' ' :: m.gap).all isBlank := by
    rw [List.all_cons, m.isGap.1]
    decide
  calc trim m.text = trim m.sign := trim_surround hnil m.sign hblank
    _ = trimEnd m.sign := by rw [hsign, trim_cons hc]
    _ = m.sign := trimEnd_of_forall fun d hd => m.isSign.isBlank_of_mem hd

/-- A mark stays before an item that is trimmed. -/
theorem trim_text_append {item : List Char} (h : trim item = item) (hne : item ≠ []) :
    trim (m.text ++ item) = m.text ++ item := by
  obtain ⟨c, cs, hsign, hc⟩ := m.isSign.exists_cons
  have hend : trimEnd item = item := trimEnd_of_trim h
  have hstays : trimEnd item ≠ [] := by rwa [hend]
  calc trim (m.text ++ item) = trimEnd (m.text ++ item) := by
        rw [text, hsign]
        exact trim_cons hc _
    _ = m.text ++ item := by rw [trimEnd_append_of_ne_nil hstays, hend]

/-- A mark is taken off an item that is trimmed. -/
theorem stripMark_text_append {item : List Char} (h : trim item = item) : stripMark (m.text ++ item) = item := by
  rw [text, List.append_assoc, List.cons_append, m.isSign.stripMark_append, trimStart_append m.isGap.1,
    trimStart_of_trim h]

end ItemMark

/-! ## Lines -/

namespace ItemLine

variable (l : ItemLine)

/-- The indentation of a line and the blanks behind it make no difference. -/
theorem trim_text : trim l.text = trim (l.mark.elim [] ItemMark.text ++ l.item) := by
  rw [text, trim_surround l.indent_isGap.1 _ l.trailing_isGap.1]

/-- What is left of a line is its item, or its sign if it has only that. -/
theorem stripMark_trim : stripMark (trim l.text) = l.kept := by
  rw [trim_text, kept]
  cases hmark : l.mark with
  | none =>
    rw [Option.elim_none, Option.elim_none, List.nil_append, l.trim_item, stripMark_of_unmarked l.unmarked]
    split
    next h => exact h
    next => rfl
  | some m =>
    rw [Option.elim_some, Option.elim_some]
    by_cases hitem : l.item = []
    · rw [if_pos hitem, hitem, List.append_nil, m.trim_text, stripMark_of_unmarked m.isSign.unmarked]
    · rw [if_neg hitem, m.trim_text_append l.trim_item hitem, m.stripMark_text_append l.trim_item]

theorem newline_notMem_text : '\n' ∉ l.text := by
  have hmark : '\n' ∉ l.mark.elim [] ItemMark.text := by
    cases l.mark with
    | none => exact List.not_mem_nil
    | some m =>
      rw [Option.elim_some, ItemMark.text, List.mem_append, List.mem_cons]
      rintro (hsign | hspace | hgap)
      · exact absurd (m.isSign.isBlank_of_mem hsign) (by decide)
      · exact absurd hspace (by decide)
      · exact m.isGap.2 hgap
  rw [text, List.mem_append, List.mem_append, List.mem_append]
  rintro ((hindent | hline | hitem) | htrailing)
  · exact l.indent_isGap.2 hindent
  · exact hmark hline
  · exact l.newline_notMem_item hitem
  · exact l.trailing_isGap.2 htrailing

/-- A line has a mark, and no item behind it. -/
def isBare : Bool := l.mark.isSome && l.item.isEmpty

theorem isBare_eq_false_iff : l.isBare = false ↔ (l.mark.isSome → l.item ≠ []) := by
  rw [isBare, Bool.and_eq_false_imp, List.isEmpty_eq_false_iff]

/-- What is left of a line that is not bare is its item. -/
theorem kept_of_not_isBare (h : l.isBare = false) : l.kept = l.item := by
  rw [kept]
  split
  next hitem =>
    cases hmark : l.mark with
    | none => exact hitem.symm
    | some m => exact absurd hitem (l.isBare_eq_false_iff.1 h (by rw [hmark, Option.isSome_some]))
  next => rfl

/-- Of a bare line the sign is left. -/
theorem kept_of_isBare (h : l.isBare = true) : l.kept ≠ [] ∧ l.item = [] := by
  rw [isBare, Bool.and_eq_true, Option.isSome_iff_exists, List.isEmpty_iff] at h
  obtain ⟨⟨m, hmark⟩, hitem⟩ := h
  obtain ⟨c, cs, hsign, -⟩ := m.isSign.exists_cons
  refine ⟨?_, hitem⟩
  rw [kept, if_pos hitem, hmark, Option.elim_some, hsign]
  exact List.cons_ne_nil c cs

end ItemLine

/-! ## Texts -/

/-- The lines of a list are those that it is made of. -/
theorem lines_listText {ls : List ItemLine} (h : ls ≠ []) : lines (listText ls) = ls.map ItemLine.text := by
  rw [listText, lines_intercalate (by simpa using h), List.flatMap_map]
  induction ls with
  | nil => rfl
  | cons l ls ih =>
    rw [List.flatMap_cons, lines_of_notMem l.newline_notMem_text, List.map_cons, List.singleton_append]
    by_cases hls : ls = []
    · rw [hls]
      rfl
    · rw [ih hls]

/-- What is left of a list is what is left of its lines. -/
theorem bulletLines_eq_kept (ls : List ItemLine) :
    bulletLines (listText ls) = (ls.map ItemLine.kept).filter (!·.isEmpty) := by
  by_cases h : ls = []
  · rw [h]
    decide
  · have hkept : ∀ l ∈ ls, stripMark (trim l.text) = l.kept := fun l _ => l.stripMark_trim
    rw [bulletLines, lines_listText h, List.map_map]
    exact congrArg _ (List.map_congr_left hkept)

/-- There is one text more than items for each bare line. -/
theorem length_kept (ls : List ItemLine) :
    ((ls.map ItemLine.kept).filter (!·.isEmpty)).length
      = ((ls.map ItemLine.item).filter (!·.isEmpty)).length + ls.countP ItemLine.isBare := by
  induction ls with
  | nil => rfl
  | cons l ls ih =>
    simp only [List.map_cons, List.filter_cons, List.countP_cons]
    cases hbare : l.isBare with
    | false =>
      rw [l.kept_of_not_isBare hbare]
      split <;> simp only [List.length_cons, ih, Bool.false_eq_true, if_false] <;> omega
    | true =>
      obtain ⟨hkept, hitem⟩ := l.kept_of_isBare hbare
      have hsome : (!l.kept.isEmpty) = true := by simpa using hkept
      rw [if_pos hsome, hitem]
      simp only [List.isEmpty_nil, Bool.not_true, Bool.false_eq_true, if_false, if_true, List.length_cons, ih]
      omega

/-- What is left of a list are its items that are not empty, in order, and besides these the signs of the lines that
have a mark without an item. So the items are recovered if and only if there are no such lines. -/
theorem bulletLines_listText (ls : List ItemLine) :
    bulletLines (listText ls) = (ls.map ItemLine.kept).filter (!·.isEmpty)
      ∧ (bulletLines (listText ls) = (ls.map ItemLine.item).filter (!·.isEmpty)
        ↔ ∀ l ∈ ls, l.mark.isSome → l.item ≠ []) := by
  refine ⟨bulletLines_eq_kept ls, ?_⟩
  rw [bulletLines_eq_kept]
  constructor
  · intro heq l hl
    have hlength := length_kept ls
    rw [heq] at hlength
    have hzero : ls.countP ItemLine.isBare = 0 := by omega
    rw [List.countP_eq_zero] at hzero
    exact l.isBare_eq_false_iff.1 (Bool.eq_false_iff.2 (hzero l hl))
  · intro h
    have hkept : ∀ l ∈ ls, l.kept = l.item := fun l hl => l.kept_of_not_isBare (l.isBare_eq_false_iff.2 (h l hl))
    rw [List.map_congr_left hkept]

/-- A line with a hyphen and a space, and nothing else. -/
def ItemLine.hyphen : ItemLine where
  indent := []
  mark := some ⟨['-'], [], .bullet (by decide), rfl, by decide⟩
  item := []
  trailing := []
  indent_isGap := ⟨rfl, by decide⟩
  trailing_isGap := ⟨rfl, by decide⟩
  trim_item := rfl
  newline_notMem_item := by decide
  unmarked := fun _ _ h => by simpa using h.length_le

/-- A line with a mark only is not left out: its sign is taken for an item. -/
theorem not_forall_bulletLines_eq :
    ¬∀ ls : List ItemLine, bulletLines (listText ls) = (ls.map ItemLine.item).filter (!·.isEmpty) := by
  intro h
  have hhyphen : ["-".toList] = [] := h [.hyphen]
  cases hhyphen

end Bookmarklet.Assist
