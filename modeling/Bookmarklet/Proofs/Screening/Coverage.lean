import Bookmarklet.Proofs.Screening.Lexeme
import Bookmarklet.Proofs.Text.Case
import Bookmarklet.Screening.Gate

/-!
# Bans and the risks that they cover

Some of the risks that authors are advised of are banned in generated code. The bans are written apart from the risks,
so this has to be checked: `Signature.isCovered` compares two signatures mark by mark, and where it says so, the one is
found at every place where the other is (`Signature.match?_of_isCovered`). Hence code that passes the gate never comes
with advice of this kind (`not_mem_warnings_of_screen_eq_code`).

No ban has a letter as it stands, so capitals do not matter to the gate (`isBanned_map_toLower`).
-/

namespace Bookmarklet.Text

/-! ## Capitals -/

/-- A character is its own small form, or it is a letter, and so is its small form. -/
theorem toLower_eq_or_isAlpha (c : Char) : c.toLower = c ∨ (c.isAlpha ∧ c.toLower.isAlpha) := by
  cases h : c.isUpper with
  | false => exact .inl (Char.toLower_eq_of_not_isUpper (by simp [h]))
  | true =>
    have halpha : c.isAlpha := by simp [Char.isAlpha, h]
    exact .inr ⟨halpha, by rwa [Char.isAlpha_toLower_eq_isAlpha]⟩

@[simp]
theorem isWord_toLower (c : Char) : isWord c.toLower = isWord c := by
  obtain h | ⟨hc, hl⟩ := toLower_eq_or_isAlpha c
  · rw [h]
  · rw [isWord_of_isAlpha hc, isWord_of_isAlpha hl]

@[simp]
theorem isBlank_toLower (c : Char) : isBlank c.toLower = isBlank c := by
  have hletter {d : Char} (hd : d.isAlpha) : isBlank d = false := by
    rw [Bool.eq_false_iff]
    intro hb
    have hword := isWord_of_isAlpha hd
    rw [isWord_of_isBlank hb] at hword
    cases hword
  obtain h | ⟨hc, hl⟩ := toLower_eq_or_isAlpha c
  · rw [h]
  · rw [hletter hc, hletter hl]

@[simp]
theorem foldsTo_toLower (c d : Char) : foldsTo c d.toLower = foldsTo c d := by
  have hsign {e : Char} (he : e.isAlpha = false) (hl : e.toLower = e) : (d.toLower == e) = (d == e) := by
    rw [Bool.eq_iff_iff, beq_iff_eq, beq_iff_eq]
    constructor
    · exact eq_of_toLower_eq he
    · rintro rfl
      exact hl
  rw [foldsTo, foldsTo, Char.toLower_toLower_eq_toLower, hsign (by decide) (by decide), hsign (by decide) (by decide)]

end Bookmarklet.Text

namespace Bookmarklet.Screening

open Text

namespace Signature

/-! ## Covered signatures -/

/-- Whether the second signature is found wherever the first one is; `inWord` tells that a word goes on until there. -/
def isCovered : (inWord : Bool) → (risk ban : Signature) → Bool
  | _, [], [] => true
  | inWord, [.blanks, .exact c], [.edge] => inWord && !isWord c
  | inWord, .edge :: risk, .edge :: ban => isCovered inWord risk ban
  | _, .exact c :: risk, .anyCase d :: ban => foldsTo d c && isCovered (isWord c) risk ban
  | _, .blank :: risk, .blank :: ban => isCovered false risk ban
  | _, .blanks :: risk, .blanks :: ban => isCovered false risk ban
  | _, _, _ => false

/-- What follows a word behind any number of blanks ends the word, if it belongs to none. -/
theorem match?_edge_of_blanks {before : Option Char} (hb : before.any isWord) {c : Char} (hc : isWord c = false)
    {text : List Char} (h : (match? before [.blanks, .exact c] text).isSome) : (match? before [.edge] text).isSome := by
  have hhead : text.head?.any isWord = false := by
    cases text with
    | nil => rfl
    | cons d text =>
      by_cases hd : isBlank d
      · simp [isWord_of_isBlank hd]
      · -- no blank stands here, so it has to be `c` itself
        simp only [match?, Option.isSome_map, List.dropWhile_cons_of_neg hd] at h
        split at h
        next heq =>
          rw [beq_iff_eq] at heq
          simp [← heq, hc]
        next => cases h
  rw [match?_edge]
  exact ⟨by simp [isWordEdge, hb, hhead], rfl⟩

theorem match?_of_isCovered {inWord : Bool} {risk ban : Signature} (h : isCovered inWord risk ban)
    {before : Option Char} (hb : inWord → before.any isWord) {text : List Char}
    (hrisk : (match? before risk text).isSome) : (match? before ban text).isSome := by
  fun_induction isCovered inWord risk ban generalizing before text with
  | case1 => rfl
  | case2 inWord c =>
    simp only [Bool.and_eq_true, Bool.not_eq_true'] at h
    exact match?_edge_of_blanks (hb h.1) h.2 hrisk
  | case3 inWord risk ban ih =>
    rw [match?_edge] at hrisk ⊢
    exact ⟨hrisk.1, ih h hb hrisk.2⟩
  | case4 inWord c risk d ban ih =>
    rw [Bool.and_eq_true] at h
    cases text with
    | nil => cases hrisk
    | cons e text =>
      rw [match?] at hrisk
      split at hrisk
      next heq =>
        rw [beq_iff_eq] at heq
        subst heq
        rw [Option.isSome_map] at hrisk
        rw [match?, if_pos h.1, Option.isSome_map]
        exact ih h.2 id hrisk
      next => cases hrisk
  | case5 inWord risk ban ih =>
    cases text with
    | nil => cases hrisk
    | cons e text =>
      rw [match?] at hrisk ⊢
      split at hrisk
      next hblank =>
        rw [Option.isSome_map] at hrisk
        rw [if_pos hblank, Option.isSome_map]
        exact ih h (absurd · Bool.false_ne_true) hrisk
      next => cases hrisk
  | case6 inWord risk ban ih =>
    rw [match?, Option.isSome_map] at hrisk ⊢
    exact ih h (absurd · Bool.false_ne_true) hrisk
  | case7 => cases h

theorem occursFrom_of_isCovered {risk ban : Signature} (h : isCovered false risk ban) {before : Option Char}
    {text : List Char} (hrisk : risk.occursFrom before text) : ban.occursFrom before text := by
  have hmatch {before : Option Char} {text : List Char} (hfound : (match? before risk text).isSome) :
      (match? before ban text).isSome := match?_of_isCovered h nofun hfound
  induction text generalizing before with
  | nil => exact hmatch hrisk
  | cons c cs ih =>
    simp only [occursFrom, Bool.or_eq_true] at hrisk ⊢
    exact hrisk.imp hmatch ih

/-- What has occurrences occurs. -/
theorem occursFrom_of_mem_occurrencesFrom {s : Signature} {o : Occurrence} {index skip : Nat} {before : Option Char}
    {text : List Char} (h : o ∈ s.occurrencesFrom index skip before text) : s.occursFrom before text := by
  induction text generalizing index skip before with
  | nil => cases h
  | cons c cs ih =>
    rw [occursFrom, Bool.or_eq_true]
    cases skip with
    | succ skip => exact .inr (ih h)
    | zero =>
      rw [occurrencesFrom] at h
      split at h
      next heq => exact .inl (by rw [heq, Option.isSome_some])
      next => exact .inr (ih h)

end Signature

/-! ## Advice that does not pass the gate -/

/-- The advice of the risks that are banned in generated code. -/
def bannedAdvice : List String :=
  ["Avoid eval() in bookmarklets.", "Avoid new Function() in bookmarklets.",
   "Network requests are discouraged (fetch).", "Network requests are discouraged (XMLHttpRequest)."]

theorem exists_ban_of_mem_bannedAdvice :
    ∀ risk ∈ risks, risk.advice ∈ bannedAdvice → ∃ ban ∈ bans, Signature.isCovered false risk.signature ban := by
  decide +kernel

/-- A text with a risk of this kind is banned. -/
theorem isBanned_of_occursIn {risk : Risk} (hrisk : risk ∈ risks) (hadvice : risk.advice ∈ bannedAdvice)
    {text : List Char} (h : risk.signature.occursIn text) : isBanned text := by
  obtain ⟨ban, hban, hcovered⟩ := exists_ban_of_mem_bannedAdvice risk hrisk hadvice
  exact List.any_eq_true.2 ⟨ban, hban, Signature.occursFrom_of_isCovered hcovered h⟩

theorem not_isWarning_of_mem_syntaxIssues {issue : Issue} {text : List Char} (h : issue ∈ syntaxIssues text) :
    ¬ issue.isWarning := by
  unfold syntaxIssues at h
  split at h
  next => cases h
  next => simp [List.mem_singleton.1 h, Issue.ofError, Issue.isWarning]

/-- Advice is given for a reason: the risk occurs in the script. -/
theorem exists_risk_of_mem_warnings {source advice : String} (h : advice ∈ warnings source) :
    ∃ risk ∈ risks, risk.advice = advice ∧ risk.signature.occursIn source.toList := by
  obtain ⟨issue, hissue, rfl⟩ := List.mem_map.1 h
  obtain ⟨hmem, hwarning⟩ := List.mem_filter.1 hissue
  simp only [issues] at hmem
  split at hmem
  next =>
    rw [List.mem_singleton.1 hmem] at hwarning
    cases hwarning
  next =>
    have hfound : issue ∈ riskIssues source.toList :=
      (List.mem_append.1 hmem).resolve_left fun hsyntax => not_isWarning_of_mem_syntaxIssues hsyntax hwarning
    obtain ⟨risk, hrisk, hoccurs⟩ := List.mem_flatMap.1 hfound
    obtain ⟨o, ho, rfl⟩ := List.mem_map.1 hoccurs
    exact ⟨risk, hrisk, rfl, Signature.occursFrom_of_mem_occurrencesFrom ho⟩

/-- What passes the gate is the candidate, with the advice about it, and has nothing banned. -/
theorem screen_eq_code_iff {limit : Nat} {candidate code : String} {advice : List String} :
    screen limit candidate = .code code advice ↔
      candidate.toList.length ≤ limit ∧ isBanned candidate.toList = false ∧ code = candidate ∧
        advice = warnings candidate := by
  unfold screen
  split
  next hlong => simp [hlong]
  next hlong =>
    split
    next hbanned => simp [hbanned]
    next hbanned => simp [Nat.not_lt.1 hlong, hbanned, eq_comm]

theorem not_mem_warnings_of_screen_eq_code {limit : Nat} {candidate code : String} {given : List String}
    (h : screen limit candidate = .code code given) {advice : String} (hadvice : advice ∈ bannedAdvice) :
    advice ∉ given := by
  obtain ⟨-, hclear, -, rfl⟩ := screen_eq_code_iff.1 h
  intro hmem
  obtain ⟨risk, hrisk, rfl, hoccurs⟩ := exists_risk_of_mem_warnings hmem
  rw [isBanned_of_occursIn hrisk hadvice hoccurs] at hclear
  cases hclear

/-! ## Capitals -/

namespace Signature

/-- Whether capitals do not matter to a signature. -/
def isCaseless (s : Signature) : Bool :=
  s.all fun
    | .exact _ => false
    | _ => true

variable {s : Signature}

/-- A signature finds the same piece in a text that is written small. -/
theorem match?_map_toLower (h : s.isCaseless) (before : Option Char) (text : List Char) :
    s.match? (before.map Char.toLower) (text.map Char.toLower) = (s.match? before text).map (·.map Char.toLower) := by
  induction s generalizing before text with
  | nil => rfl
  | cons mark s ih =>
    rw [isCaseless, List.all_cons, Bool.and_eq_true] at h
    have ih := ih h.2
    -- the marks that read one character
    have hnext (d : Char) (rest : List Char) :
        (match? (some d.toLower) s (rest.map Char.toLower)).map (d.toLower :: ·) =
          ((match? (some d) s rest).map (d :: ·)).map (·.map Char.toLower) := by
      rw [← Option.map_some, ih, Option.map_map, Option.map_map]
      rfl
    cases mark with
    | exact c => cases h.1
    | edge =>
      have hedge :
          isWordEdge (before.map Char.toLower) (text.map Char.toLower).head? = isWordEdge before text.head? := by
        simp [isWordEdge, Option.any_map]
      rw [match?, match?, hedge, ih, apply_ite (Option.map _), Option.map_none]
    | blanks =>
      have hblank : isBlank ∘ Char.toLower = isBlank := funext isBlank_toLower
      rw [match?, match?, List.takeWhile_map, List.dropWhile_map, hblank, List.getLast?_map, ← Option.map_or, ih,
        Option.map_map, Option.map_map]
      simp only [Function.comp_def, List.map_append]
    | anyCase c =>
      cases text with
      | nil => rfl
      | cons d rest =>
        rw [List.map_cons, match?, match?, foldsTo_toLower, hnext, apply_ite (Option.map _), Option.map_none]
    | blank =>
      cases text with
      | nil => rfl
      | cons d rest =>
        rw [List.map_cons, match?, match?, isBlank_toLower, hnext, apply_ite (Option.map _), Option.map_none]

theorem occursFrom_map_toLower (h : s.isCaseless) (before : Option Char) (text : List Char) :
    s.occursFrom (before.map Char.toLower) (text.map Char.toLower) = s.occursFrom before text := by
  have hmatch (before : Option Char) (text : List Char) :
      (s.match? (before.map Char.toLower) (text.map Char.toLower)).isSome = (s.match? before text).isSome := by
    rw [match?_map_toLower h, Option.isSome_map]
  induction text generalizing before with
  | nil => exact hmatch before []
  | cons c cs ih =>
    have hrest := ih (some c)
    have hhere := hmatch before (c :: cs)
    rw [List.map_cons] at hhere ⊢
    rw [occursFrom, occursFrom, hhere, ← hrest, Option.map_some]

end Signature

/-- The gate reads a text as if it were written small. -/
theorem isBanned_map_toLower (text : List Char) : isBanned (text.map Char.toLower) = isBanned text := by
  have hcaseless : ∀ ban ∈ bans, ban.isCaseless := by decide +kernel
  have hban : ∀ ban ∈ bans, ban.occursIn (text.map Char.toLower) = ban.occursIn text :=
    fun ban hban => Signature.occursFrom_map_toLower (hcaseless ban hban) none text
  rw [isBanned, isBanned, Bool.eq_iff_iff, List.any_eq_true, List.any_eq_true]
  exact exists_congr fun ban => and_congr_right fun h => by rw [hban ban h]

/-- The bans cover the risks of eval, of new functions, and of both kinds of requests: code that passes the gate comes
without advice of these four kinds, and a text with such a risk anywhere is banned. Capitals do not matter to the
bans. -/
theorem bans_cover_risks :
    (∀ (limit : Nat) (candidate code : String) (given : List String),
      screen limit candidate = .code code given → ∀ advice ∈ bannedAdvice, advice ∉ given) ∧
    (∀ advice ∈ bannedAdvice, ∃ risk ∈ risks, risk.advice = advice) ∧
    (∀ risk ∈ risks, risk.advice ∈ bannedAdvice → ∀ text, risk.signature.occursIn text → isBanned text) ∧
    ∀ text other : List Char, text.map Char.toLower = other.map Char.toLower → isBanned text = isBanned other := by
  refine ⟨?_, by decide +kernel, ?_, ?_⟩
  · intro limit candidate code given h advice hadvice
    exact not_mem_warnings_of_screen_eq_code h hadvice
  · intro risk hrisk hadvice text hoccurs
    exact isBanned_of_occursIn hrisk hadvice hoccurs
  · intro text other h
    rw [← isBanned_map_toLower, h, isBanned_map_toLower]

end Bookmarklet.Screening
