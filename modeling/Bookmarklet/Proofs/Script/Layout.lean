import Bookmarklet.Proofs.Script.Acceptance
import Bookmarklet.Proofs.Script.Parser.Parse
import Bookmarklet.Proofs.Script.Plan

/-!
# Where the names of a script start

A tree that reads a text without faults has its tokens one behind the other (`Tree.Reads.nameStarts`), so no two names
of a script start at one byte (`nodup_nameStarts_of_parse`).
-/

namespace Bookmarklet.Script

theorem Cursor.Slack.byte_le {a b : Cursor} (h : a.Slack b) : a.position.byte ≤ b.position.byte := by
  obtain ⟨text, htext, -⟩ := h
  exact Nat.le_of_add_right_le htext.byte_le

namespace Tree

theorem Reads.byte_le {t : Tree} {a b : Cursor} (h : t.Reads a b) : a.position.byte ≤ b.position.byte := by
  obtain ⟨text, htext⟩ := h.leads
  exact Nat.le_of_add_right_le htext.byte_le

mutual
/-- The names in a tree without faults start one behind the other, between the ends of what the tree reads. -/
theorem Reads.nameStarts : ∀ {t : Tree} {a b : Cursor}, t.Reads a b → t.info.faulty = false →
    t.nameStarts.Pairwise (· < ·) ∧ ∀ s ∈ t.nameStarts, a.position.byte ≤ s ∧ s < b.position.byte
  | leaf info text, a, b, ⟨m, hgap, hstart, htext, hfaulty⟩, hf => by
    have hne : text ≠ [] := fun hnil => by
      rw [show info.faulty = false from hf] at hfaulty
      exact absurd (hfaulty hnil) Bool.false_ne_true
    have hgap := hgap.byte_le
    have htext := htext.byte_le
    have hpos := List.length_pos_iff.2 hne
    rw [Tree.nameStarts, nameLeaves]
    split
    · refine ⟨List.pairwise_singleton _ _, fun s hs => ?_⟩
      cases List.mem_singleton.1 hs
      simp only [hstart]
      omega
    · exact ⟨List.Pairwise.nil, nofun⟩
  | node info children, a, b, ⟨hreads, hfaulty⟩, hf => ReadsIn.nameStarts hreads (clean_of_mem hfaulty hf)

theorem ReadsIn.nameStarts : ∀ {ts : List Tree} {a b : Cursor}, ReadsIn ts a b → (∀ t ∈ ts, t.info.faulty = false) →
    ((nameLeavesIn ts).map (·.1.start.byte)).Pairwise (· < ·)
      ∧ ∀ s ∈ (nameLeavesIn ts).map (·.1.start.byte), a.position.byte ≤ s ∧ s < b.position.byte
  | [], _, _, _, _ => ⟨List.Pairwise.nil, nofun⟩
  | t :: ts, a, b, ⟨m, n, hm, ht, hts⟩, hf => by
    obtain ⟨hpair, hbounds⟩ := ht.nameStarts (hf t List.mem_cons_self)
    obtain ⟨hpairs, hrest⟩ := ReadsIn.nameStarts hts fun u hu => hf u (List.mem_cons_of_mem t hu)
    have hle := hm.byte_le
    have hle' := ht.byte_le
    have hle'' : n.position.byte ≤ b.position.byte := by
      obtain ⟨text, htext⟩ := hts.leads
      exact Nat.le_of_add_right_le htext.byte_le
    rw [nameLeavesIn, List.map_append, List.pairwise_append]
    refine ⟨⟨hpair, hpairs, fun s hs s' hs' => ?_⟩, fun s hs => ?_⟩
    · exact Nat.lt_of_lt_of_le (hbounds s hs).2 (hrest s' hs').1
    · rcases List.mem_append.1 hs with hs | hs
      · have := hbounds s hs
        omega
      · have := hrest s hs
        omega
end

end Tree

/-- No two names of a script without faults start at one byte. -/
theorem nodup_nameStarts_of_parse {source : List Char} {t : Tree} (h : parse source = some t)
    (hclean : t.info.faulty = false) : t.nameStarts.Nodup := by
  obtain ⟨a, b, text, c, -, hreads, -⟩ := reads_of_parse h
  exact (hreads.nameStarts hclean).1.imp fun hlt => Nat.ne_of_lt hlt

theorem nodup_nameStarts_of_check {source : List Char} {t : Tree} (h : check source = .ok t) : t.nameStarts.Nodup :=
  nodup_nameStarts_of_parse (check_eq_ok_iff.1 h).1 (clean_of_check h)

end Bookmarklet.Script
