import Mathlib.Data.List.TakeWhile
import Bookmarklet.Assist.Provider
import Bookmarklet.Proofs.Text.Trim

/-!
# Code between fences

A reply of the form `FencedReply` has a fence with a remark, code on the lines below, and a fence at its end, with any
blanks around. What is taken from it is the code without the blanks at its ends (`stripFences_text`), whatever fences
the code holds itself; from a reply that does not start with a fence no more than these blanks are taken away
(`stripFences_of_unfenced`). So what a service replies in this form is answered as code, unless it is blank
(`code_of_reply`).
-/

namespace Bookmarklet.Assist

open Text

/-- A reply with code between fences. -/
structure FencedReply where
  /-- What stands before the first fence. -/
  before : List Char
  /-- What follows the first fence on its line. -/
  remark : List Char
  body : List Char
  /-- What stands behind the last fence. -/
  after : List Char
  before_blank : before.all isBlank
  newline_notMem_remark : '\n' ∉ remark
  after_blank : after.all isBlank

/-- The text of a reply with fences. -/
def FencedReply.text (r : FencedReply) : List Char :=
  r.before ++ (fence ++ r.remark ++ '\n' :: (r.body ++ fence)) ++ r.after

/-! ## Words taken off the ends of a text -/

theorem stripPrefix?_append (word rest : List Char) : stripPrefix? word (word ++ rest) = some rest := by
  have hprefix : word.isPrefixOf (word ++ rest) = true := List.isPrefixOf_iff_prefix.2 (List.prefix_append word rest)
  rw [stripPrefix?, if_pos hprefix, List.drop_left]

theorem stripPrefix?_eq_none {word text : List Char} (h : ¬word <+: text) : stripPrefix? word text = none := by
  rw [stripPrefix?, if_neg]
  intro hprefix
  exact h (List.isPrefixOf_iff_prefix.1 hprefix)

theorem stripSuffix?_append (word front : List Char) : stripSuffix? word (front ++ word) = some front := by
  rw [stripSuffix?, List.reverse_append, stripPrefix?_append, Option.map_some, List.reverse_reverse]

theorem afterFirstLine_append {line : List Char} (h : '\n' ∉ line) (rest : List Char) :
    afterFirstLine (line ++ '\n' :: rest) = rest := by
  have hline : ∀ c ∈ line, (c != '\n') = true := by
    intro c hc
    rw [bne_iff_ne]
    rintro rfl
    exact h hc
  rw [afterFirstLine, List.dropWhile_append_of_pos hline, List.dropWhile_cons, if_neg (by simp), List.drop_one,
    List.tail_cons]

/-! ## Replies -/

/-- What is left of a reply when it is trimmed starts with the first fence and ends with the last. -/
theorem FencedReply.trim_text (r : FencedReply) :
    trim r.text = fence ++ (r.remark ++ '\n' :: (r.body ++ fence)) := by
  have hend : trimEnd fence ≠ [] := by decide
  have hstart : fence ++ r.remark ++ '\n' :: (r.body ++ fence)
      = '\x60' :: (['\x60', '\x60'] ++ r.remark ++ '\n' :: r.body ++ fence) := by
    simp [fence, List.replicate]
  rw [text, trim_surround r.before_blank _ r.after_blank, hstart, trim_cons (by decide), ← List.cons_append,
    trimEnd_append_of_ne_nil hend]
  simp [fence, List.replicate, trimEnd, isBlank, blankRanges]

/-- The code of a reply with fences is what stands between them. -/
theorem stripFences_text (r : FencedReply) : stripFences r.text = trim r.body := by
  unfold stripFences
  simp only [r.trim_text, stripPrefix?_append, afterFirstLine_append r.newline_notMem_remark, stripSuffix?_append,
    Option.getD_some]

/-- Only the blanks at its ends are taken from a reply that does not start with a fence. -/
theorem stripFences_of_unfenced {reply : List Char} (h : ¬fence <+: trim reply) : stripFences reply = trim reply := by
  unfold stripFences
  simp only [stripPrefix?_eq_none h]

/-- A reply with fences makes a response with its code, unless that is blank. -/
theorem responseOfReply_fenced (r : FencedReply) :
    responseOfReply .generate (String.ofList r.text)
      = if r.body.all isBlank then .error .emptyCompletion else .ok (.code (String.ofList (trim r.body)) []) := by
  rw [responseOfReply, String.toList_ofList]
  simp only [stripFences_text]
  cases hbody : trim r.body with
  | nil => rw [if_pos (trim_eq_nil_iff.1 hbody)]
  | cons c code =>
    rw [if_neg]
    intro hblank
    rw [trim_eq_nil_iff.2 hblank] at hbody
    cases hbody

/-- What stands between the fences of a reply is recovered without the blanks at its ends, and a reply without a fence
at its start loses these blanks only. When a service acts in some monad and replies with fences to the prompt for new
code, there is an answer for each reply: the code between the fences, or that the completion was empty, exactly if it
is blank. -/
theorem code_of_reply {m : Type → Type} [Monad m] [LawfulMonad m] :
    (∀ r : FencedReply, stripFences r.text = trim r.body)
    ∧ (∀ reply, ¬fence <+: trim reply → stripFences reply = trim reply)
    ∧ ∀ (backend : Backend m) (replies : m FencedReply) (request : Request) (prompt : Prompt),
        request.intent = .generate → request.toPrompt = .ok prompt →
          backend prompt = (fun r => .ok (String.ofList r.text)) <$> replies →
            completion backend request
              = (fun r => if r.body.all isBlank then .error .emptyCompletion
                  else .ok (.code (String.ofList (trim r.body)) [])) <$> replies := by
  refine ⟨stripFences_text, fun reply h => stripFences_of_unfenced h, ?_⟩
  intro backend replies request prompt hintent hprompt hreplies
  unfold completion
  simp only [hprompt, hreplies, hintent, bind_map_left, responseOfReply_fenced]
  rw [← bind_pure_comp]

/-- A service that counts its calls replies with code that holds a fence itself, and then with blanks. -/
theorem code_of_reply_counting :
    let replies : StateM Nat FencedReply := fun calls =>
      (⟨" \n".toList, "js\r".toList, if calls = 0 then "`a\n\x60\x60\x60\nb` \n".toList else "\u00a0\n".toList,
        "\n".toList, by decide, by decide, by decide⟩, calls + 1)
    let service : Backend (StateM Nat) := fun _ => (fun r => .ok (String.ofList r.text)) <$> replies
    LawfulMonad (StateM Nat)
      ∧ ¬fence <+: trim "f() \x60\x60\x60".toList ∧ stripFences "f() \x60\x60\x60".toList = "f() \x60\x60\x60".toList
      ∧ completion service (.generate "links") 0 = (.ok (.code "`a\n\x60\x60\x60\nb`" []), 1)
      ∧ completion service (.generate "links") 1 = (.error .emptyCompletion, 2) := by
  intro replies service
  obtain ⟨-, hplain, hservice⟩ := code_of_reply (m := StateM Nat)
  have hfence : ¬fence <+: trim "f() \x60\x60\x60".toList := by decide
  have hanswer := hservice service replies (.generate "links") _ rfl rfl rfl
  refine ⟨inferInstance, hfence, (hplain _ hfence).trans (by decide), ?_, ?_⟩
  · rw [hanswer]
    rfl
  · rw [hanswer]
    rfl

end Bookmarklet.Assist
