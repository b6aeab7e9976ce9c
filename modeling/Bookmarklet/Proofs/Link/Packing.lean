import Bookmarklet.Link.Build
import Bookmarklet.Proofs.Screening.Lexeme
import Bookmarklet.Proofs.Text.Words
import Bookmarklet.Screening.Gate

/-!
# What links carry past the gate

A link carries the tokens of a script, written tightly, or the script with its blanks collapsed.

* Collapsing the blanks of a text changes nothing of what the gate reads (`lexemes_collapse`).
* Tokens that are written tightly read as the tokens one by one (`Piece.isBanned_write`).
-/

namespace Bookmarklet

open Screening Text

/-! ## Collapsed blanks -/

namespace Screening

/-- A blank keeps words apart. -/
theorem lexemes_append_blank (a b : List Char) : lexemes (a ++ ' ' :: b) = lexemes a ++ lexemes b := by
  have hw : isWord ' ' = false := isWord_of_isBlank rfl
  rw [lexemes_append _ a (by simp [hw]), lexemes_blank rfl]

/-- The lexemes of a text are those of its words. -/
theorem lexemes_words (text : List Char) : lexemes text = (words text).flatMap lexemes := by
  cases h : text.head?.all isBlank with
  | false =>
    obtain ⟨word, rest, rfl, hrest, hwords⟩ := exists_words_eq_cons h
    have hhead : rest.head?.any isWord = false := by
      cases rest with
      | nil => rfl
      | cons c rest => exact isWord_of_isBlank hrest
    have hlt : rest.length < (word ++ rest).length := by
      cases word with
      | nil => simp_all
      | cons c word =>
        rw [List.length_append, List.length_cons]
        omega
    rw [hwords, lexemes_append rest word (by simp [hhead]), lexemes_words rest, List.flatMap_cons]
  | true =>
    cases text with
    | nil => rfl
    | cons c cs =>
      have hc : isBlank c := h
      rw [lexemes_blank hc, words, if_pos hc, lexemes_words cs]
termination_by text.length

theorem lexemes_intercalate : ∀ ws : List (List Char), lexemes ([' '].intercalate ws) = ws.flatMap lexemes
  | [] => rfl
  | [w] => by simp [List.intercalate]
  | w :: v :: ws => by
    have h := lexemes_append_blank w ([' '].intercalate (v :: ws))
    rw [lexemes_intercalate (v :: ws)] at h
    simpa [List.intercalate] using h

/-- Collapsing blanks changes no lexeme. -/
theorem lexemes_collapse (text : List Char) : lexemes (collapse text) = lexemes text := by
  rw [collapse, lexemes_intercalate, ← lexemes_words]

/-- Collapsing blanks neither bans a text nor clears it. -/
theorem isBanned_collapse (text : List Char) : isBanned (collapse text) = isBanned text := by
  rw [isBanned_eq, isBanned_eq, lexemes_collapse]

end Screening

/-! ## Tight writing -/

namespace Screening.Lexeme

/-- A sign keeps apart what stands before and behind it. -/
theorem areBanned_append_sign (a b : List Lexeme) : areBanned (a ++ sign :: b) = (areBanned a || areBanned b) := by
  induction a with
  | nil => rfl
  | cons l a ih =>
    cases l with
    | sign => exact ih
    | word w =>
      have hstarts : startsWith "function".toList (a ++ sign :: b) = startsWith "function".toList a := by
        rcases a with _ | ⟨_ | _, a⟩ <;> rfl
      rw [List.cons_append, areBanned, areBanned, ih, hstarts]
      simp only [Bool.or_assoc]

end Screening.Lexeme

namespace Script.Piece

/-- What the gate reads of a piece. -/
def lexemes : Piece → List Lexeme
  | token text _ => Screening.lexemes text
  | terminator => [.sign]

/-- What the gate reads of pieces that are written behind what has been written. -/
def writtenLexemes (due : Bool) : List Piece → List Lexeme
  | [] => []
  | terminator :: rest => writtenLexemes true rest
  | token text _ :: rest =>
    if text.isEmpty then writtenLexemes due rest
    else (if due && text != ['\x7d'] then [.sign] else []) ++ Screening.lexemes text ++ writtenLexemes false rest

theorem isWordChar_of_isWord {c : Char} (h : isWord c) : isWordChar c := by
  unfold isWord at h
  unfold isWordChar
  split at h
  · simp_all
  · simp; omega

/-- A word is not written right behind a word. -/
theorem head?_write (ending : Ending) (hw : isWord ending.last) : ∀ (due : Bool) (ps : List Piece),
    (write (some ending) due ps).head?.any isWord = false
  | _, [] => rfl
  | _, terminator :: rest => head?_write ending hw true rest
  | due, token [] _ :: rest => head?_write ending hw due rest
  | due, token (c :: cs) isNumber :: rest => by
    unfold write
    cases hends : due && c :: cs != ['\x7d'] with
    | true => rfl
    | false =>
      cases hj : joins ending c with
      | true => simp [hj, isWord_of_isBlank (c := ' ') rfl]
      | false =>
        cases hc : isWord c with
        | false => simp [hj, hc]
        | true => simp [joins, isWordChar_of_isWord hw, isWordChar_of_isWord hc] at hj

/-- Pieces that are written tightly read as they do one by one. -/
theorem lexemes_write : ∀ (ending : Option Ending) (due : Bool) (ps : List Piece),
    Screening.lexemes (write ending due ps) = writtenLexemes due ps
  | _, _, [] => rfl
  | ending, due, terminator :: rest => lexemes_write ending true rest
  | ending, due, token [] _ :: rest => by
    rw [write, writtenLexemes, lexemes_write ending due rest]
    rfl
  | ending, due, token (c :: cs) isNumber :: rest => by
    have hblank (b : Bool) (text : List Char) :
        Screening.lexemes ((if b then [' '] else []) ++ text) = Screening.lexemes text := by
      cases b with
      | true => exact lexemes_blank rfl text
      | false => rfl
    have hrest := lexemes_write (some ⟨(c :: cs).getLast (List.cons_ne_nil c cs), isNumber⟩) false rest
    have htoken := lexemes_append (write (some ⟨(c :: cs).getLast (List.cons_ne_nil c cs), isNumber⟩) false rest)
      (c :: cs) <| by
        rw [List.getLast?_eq_some_getLast (List.cons_ne_nil c cs), Option.any_some]
        cases hw : isWord ((c :: cs).getLast (List.cons_ne_nil c cs)) with
        | true => rw [head?_write _ hw, Bool.and_false]
        | false => rfl
    rw [hrest] at htoken
    have hsign (text : List Char) : Screening.lexemes (';' :: text) = .sign :: Screening.lexemes text :=
      lexemes_sign (by decide +kernel) (by decide +kernel) text
    rw [write, writtenLexemes]
    cases hends : due && c :: cs != ['\x7d'] with
    | true => simpa [hsign, hblank] using htoken
    | false => simpa [hblank] using htoken

/-- Whether a statement ends does not matter to the gate. -/
theorem areBanned_writtenLexemes : ∀ (ps : List Piece) (due : Bool) (before : List Lexeme),
    Lexeme.areBanned (before ++ writtenLexemes due ps)
      = Lexeme.areBanned (before ++ ((if due then [.sign] else []) ++ ps.flatMap lexemes))
  | [], due, before => by
    cases due <;> simp [writtenLexemes, Lexeme.areBanned_append_sign, Lexeme.areBanned]
  | terminator :: rest, due, before => by
    rw [writtenLexemes, areBanned_writtenLexemes rest true before]
    cases due <;> simp [lexemes, Lexeme.areBanned_append_sign, Lexeme.areBanned]
  | token [] _ :: rest, due, before => areBanned_writtenLexemes rest due before
  | token (c :: cs) _ :: rest, due, before => by
    have ih (before : List Lexeme) : Lexeme.areBanned (before ++ writtenLexemes false rest)
        = Lexeme.areBanned (before ++ rest.flatMap lexemes) := areBanned_writtenLexemes rest false before
    have hbrace : Screening.lexemes ['\x7d'] = [.sign] := by decide +kernel
    rw [writtenLexemes, if_neg (by simp), List.flatMap_cons, lexemes, ← List.append_assoc, ih]
    by_cases hclosing : c :: cs = ['\x7d']
    · rw [hclosing, hbrace]
      cases due <;> simp [Lexeme.areBanned_append_sign, Lexeme.areBanned]
    · cases due <;> simp [hclosing]

/-- Tokens that are written tightly are banned if and only if they are one by one, or two in a row. -/
theorem isBanned_write (ps : List Piece) :
    isBanned (write none false ps) = Lexeme.areBanned (ps.flatMap lexemes) := by
  rw [isBanned_eq, lexemes_write]
  exact areBanned_writtenLexemes ps false []

end Script.Piece

/-! ## Links -/

namespace Link

open Script

/-- The script is minified, and of its tokens one is banned, or two in a row are. -/
def SpellsBan (source : List Char) : Prop :=
  ∃ tree, check source = .ok tree ∧ tree.emit tree.plan ≠ [] ∧
    Lexeme.areBanned ((tree.pieces tree.plan none false).flatMap Piece.lexemes)

/-- What a link carries is banned if its tokens are, or, where it is not minified, if the script is. -/
theorem isBanned_packed (source : List Char) :
    isBanned (packed source) ↔ SpellsBan source ∨ (∃ e, minify source = .error e) ∧ isBanned source := by
  unfold packed minify SpellsBan
  cases hcheck : check source with
  | error e => simp [isBanned_collapse]
  | ok tree =>
    have hwrite := Piece.isBanned_write (tree.pieces tree.plan none false)
    rw [← Tree.emit] at hwrite
    cases hemit : tree.emit tree.plan with
    | nil => simp [hemit, isBanned_collapse]
    | cons c cs => simp [← hwrite, hemit]

/-- What passes the gate is clean in its link unless its tokens, apart from what stands between them, are banned. -/
theorem isBanned_packed_of_screened (candidate : String) (limit : Nat) :
    ((∃ warnings, screen limit candidate = .code candidate warnings) → isBanned (packed candidate.toList) = false) ↔
      limit < candidate.toList.length ∨ isBanned candidate.toList ∨ ¬ SpellsBan candidate.toList := by
  have hpacked := isBanned_packed candidate.toList
  unfold screen
  by_cases hlong : limit < candidate.toList.length
  · simp [hlong]
  · cases hban : isBanned candidate.toList with
    | true => simp [hlong]
    | false =>
      rw [Bool.eq_false_iff, Ne, hpacked, hban]
      simp [hlong]

/-- A comment hides what is banned from the gate, and the link carries it without the comment. -/
theorem not_forall_isBanned_packed :
    ¬ ∀ (candidate : String) (limit : Nat), (∃ warnings, screen limit candidate = .code candidate warnings) →
      isBanned (packed candidate.toList) = false := by
  intro h
  have hclean : isBanned "new /* c */ Function('')".toList = false := by decide +kernel
  have hban : isBanned (packed "new /* c */ Function('')".toList) = true := by decide +kernel
  have hscreen : screen 24 "new /* c */ Function('')"
      = .code "new /* c */ Function('')" (Screening.warnings "new /* c */ Function('')") := by
    rw [screen, if_neg (by decide +kernel), hclean, if_neg Bool.false_ne_true]
  exact Bool.false_ne_true ((h _ 24 ⟨_, hscreen⟩).symm.trans hban)

end Link

end Bookmarklet
