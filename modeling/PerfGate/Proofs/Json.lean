import PerfGate.Json
import PerfGate.Proofs.Decimal.Inline

/-!
# The lines of a JSON document

A document is laid out over several lines, and whatever texts it holds, none of the lines begins
with a colon (`uncolonned_render`): line feeds inside a text are escaped, and those between the
values stand in front of spaces or of a bracket.
-/

namespace PerfGate.Json

open Text (IsInline Uncolonned uncolonned_of_noFeed)

lemma hexDigit_ne_feed : ∀ n < 16, hexDigit n ≠ '\n' := by
  decide

/-- No character is written with a line feed. -/
lemma noFeed_quoteChar (c : Char) : '\n' ∉ quoteChar c := by
  unfold quoteChar
  split
  all_goals try decide
  rename_i other _ _ _ _
  split
  · rename_i control
    have high := hexDigit_ne_feed (c.toNat / 16) (by omega)
    have low := hexDigit_ne_feed (c.toNat % 16) (by omega)
    simp [high.symm, low.symm]
  · rw [List.mem_singleton]
    exact fun same => other same.symm

lemma noFeed_quote (s : String) : '\n' ∉ (quote s).toList := by
  rw [quote, String.toList_ofList, List.mem_append, List.mem_cons]
  rintro ((first | inner) | last)
  · exact absurd first (by decide)
  · obtain ⟨c, -, mem⟩ := List.mem_flatMap.1 inner
    exact noFeed_quoteChar c mem
  · exact absurd last (by decide)

/-- A text in quotes begins with a quote, and so does what follows it in its line. -/
lemma uncolonned_quote (s : String) {rest : String} (plain : '\n' ∉ rest.toList) :
    Uncolonned (quote s ++ rest) := by
  apply uncolonned_of_noFeed
  · rw [String.toList_append, quote, String.toList_ofList]
    rintro c ⟨⟩
    decide
  · rw [String.toList_append, List.mem_append]
    rintro (mem | mem)
    · exact noFeed_quote s mem
    · exact plain mem

lemma uncolonned_indent (depth : Nat) : Uncolonned (indent depth) := by
  apply IsInline.uncolonned
  intro c mem
  rw [indent, String.toList_ofList] at mem
  rw [List.eq_of_mem_replicate mem]
  decide

lemma uncolonned_feed : Uncolonned "\n" := by
  constructor
  · rintro c ⟨⟩
    decide
  · show List.IsChain _ ['\n']
    exact .singleton _

lemma uncolonned_intercalate {lines : List String} (h : ∀ line ∈ lines, Uncolonned line) :
    Uncolonned (String.intercalate ",\n" lines) := by
  have comma : IsInline "," := by decide
  have separator : Uncolonned ",\n" := comma.uncolonned.append uncolonned_feed
  induction lines with
  | nil => exact IsInline.uncolonned (by decide)
  | cons line lines ih =>
    obtain ⟨first, others⟩ := List.forall_mem_cons.1 h
    cases lines with
    | nil =>
      rw [String.intercalate_singleton]
      exact first
    | cons next lines =>
      rw [String.intercalate_cons_cons]
      exact (first.append separator).append (ih others)

/-- Brackets around lines. -/
lemma uncolonned_bracket {opening closing : String} (before : IsInline opening)
    (behind : IsInline closing) (depth : Nat) {lines : List String}
    (h : ∀ line ∈ lines, Uncolonned line) : Uncolonned (bracket opening closing depth lines) := by
  unfold bracket
  split
  · exact (before.append behind).uncolonned
  · have inside := (before.uncolonned.append uncolonned_feed).append (uncolonned_intercalate h)
    have last := (inside.append uncolonned_feed).append (uncolonned_indent depth)
    exact last.append behind.uncolonned

mutual

/-- No line of a value begins with a colon. -/
theorem uncolonned_renderAt (depth : Nat) : ∀ value : Json, Uncolonned (renderAt depth value)
  | .boolean b => by
    rw [renderAt]
    cases b <;> exact IsInline.uncolonned (by decide)
  | .count n => by
    rw [renderAt]
    exact (Decimal.isInline_toString n).uncolonned
  | .number x => by
    rw [renderAt]
    exact (Decimal.isInline_literal x).uncolonned
  | .text s => by
    have quoted : Uncolonned (quote s ++ "") := uncolonned_quote s (by decide)
    rw [String.append_empty] at quoted
    rw [renderAt]
    exact quoted
  | .list items => by
    rw [renderAt]
    exact uncolonned_bracket (by decide) (by decide) depth (uncolonned_itemLines (depth + 1) items)
  | .record members => by
    rw [renderAt]
    exact uncolonned_bracket (by decide) (by decide) depth
      (uncolonned_memberLines (depth + 1) members)

theorem uncolonned_itemLines (depth : Nat) :
    ∀ items : List Json, ∀ line ∈ itemLines depth items, Uncolonned line
  | [] => List.forall_mem_nil _
  | item :: items => by
    rw [itemLines, List.forall_mem_cons]
    exact ⟨(uncolonned_indent depth).append (uncolonned_renderAt depth item),
      uncolonned_itemLines depth items⟩

theorem uncolonned_memberLines (depth : Nat) :
    ∀ members : List (String × Json), ∀ line ∈ memberLines depth members, Uncolonned line
  | [] => List.forall_mem_nil _
  | (name, value) :: members => by
    have named : Uncolonned (indent depth ++ quote name ++ ": ") := by
      rw [String.append_assoc]
      exact (uncolonned_indent depth).append (uncolonned_quote name (by decide))
    rw [memberLines, List.forall_mem_cons]
    exact ⟨named.append (uncolonned_renderAt depth value), uncolonned_memberLines depth members⟩

end

/-- No line of a document begins with a colon. -/
theorem uncolonned_render (value : Json) : Uncolonned value.render :=
  uncolonned_renderAt 0 value

end PerfGate.Json
