import DetectorSearch.Proofs.Query.Meaning

/-!
# Patterns in a query

A condition with a pattern asks for a text among the values of a field that can be cut
into one part for each symbol of the pattern. A pattern without special symbols asks for
the same as a condition with this text as the exact value.

Results:
1. `satisfies_wildcard`, `satisfies_term`: the two conditions as queries.
2. `wildcard_takes`: the documents that a pattern accepts.
-/

namespace DetectorSearch

variable {source : Fields} {field pattern : String}

theorem satisfies_wildcard : Document.satisfies source (DetectorFilter.wildcard field pattern) =
    Clause.accepts source (.wildcard field (.text pattern)) := rfl

theorem satisfies_term {value : String} :
    Document.satisfies source (DetectorFilter.term field (.text value)) =
      Clause.accepts source (.term field (.text value)) := rfl

/-- A pattern can be asked of every document. -/
theorem wildcard_answers (source : Fields) (field pattern : String) :
    ∃ answer, Document.satisfies source (DetectorFilter.wildcard field pattern) = .ok answer := by
  cases hanswer : Document.satisfies source (DetectorFilter.wildcard field pattern) with
  | ok answer => exact ⟨answer, rfl⟩
  | error failure =>
      rw [satisfies_wildcard, Clause.accepts] at hanswer
      obtain ⟨value, -, hfailed⟩ := Clause.anyTest_error hanswer
      obtain ⟨fits, hfits⟩ := Clause.fitsPattern_text pattern value
      cases hfits.symm.trans hfailed

theorem wildcard_true_iff (h : '[' ∉ pattern.toList) :
    Document.satisfies source (DetectorFilter.wildcard field pattern) = .ok true ↔
      ∃ string, .text string ∈ Document.values source field ∧
        Text.Glob.SpelledBy pattern.toList string.toList := by
  rw [satisfies_wildcard, Clause.accepts_wildcard]
  simp only [Text.Glob.takes_read h]

/-- A pattern without brackets accepts a document if some text among the values of the field can be
cut into one part for each symbol: any part for a star, one character for a question mark, and the
symbol itself for every other. Without stars and question marks it accepts what the condition with
the same text as exact value accepts. -/
theorem wildcard_takes (source : Fields) (field pattern : String) (h : '[' ∉ pattern.toList) :
    (∃ answer, Document.satisfies source (DetectorFilter.wildcard field pattern) = .ok answer ∧
      (answer = true ↔ ∃ string, .text string ∈ Document.values source field ∧
        Text.Glob.SpelledBy pattern.toList string.toList)) ∧
    ('*' ∉ pattern.toList → '?' ∉ pattern.toList →
      Document.satisfies source (DetectorFilter.wildcard field pattern) =
        Document.satisfies source (DetectorFilter.term field (.text pattern))) := by
  obtain ⟨answer, hanswer⟩ := wildcard_answers source field pattern
  have htrue := @wildcard_true_iff source field pattern h
  rw [hanswer, Except.ok.injEq] at htrue
  refine ⟨⟨answer, hanswer, htrue⟩, fun hstar hany => ?_⟩
  have hterm : Document.satisfies source (DetectorFilter.term field (.text pattern)) = .ok true ↔
      answer = true := by
    rw [satisfies_term, Clause.accepts_term, htrue]
    simp only [Text.Glob.spelledBy_literal hstar hany, String.toList_inj, exists_eq_right]
  rw [satisfies_term, Clause.accepts, Except.ok.injEq] at hterm
  rw [hanswer, satisfies_term, Clause.accepts, Bool.eq_iff_iff.2 hterm]

/-- A document with a number and a name of two lines in one field. -/
def linedDetector : Fields :=
  [("name", .list [.int 1, .text "a]\n.c"])]

theorem wildcard_takes_lines : '[' ∉ "a*?.c".toList ∧
    Text.Glob.SpelledBy "a*?.c".toList "a]\n.c".toList ∧
    Document.satisfies linedDetector (DetectorFilter.wildcard "name.keyword" "a*?.c") =
      .ok true := by
  have hplain : '[' ∉ "a*?.c".toList := by decide
  have hspelled : Text.Glob.SpelledBy "a*?.c".toList "a]\n.c".toList := by
    have hsymbols : "a*?.c".toList = ['a', '*', '?', '.', 'c'] := rfl
    refine ⟨[['a'], [']'], ['\n'], ['.'], ['c']], rfl, hsymbols ▸ ?_⟩
    exact .cons (.itself (by decide) (by decide)) (.cons (.star _) (.cons (.anyOne _)
      (.cons (.itself (by decide) (by decide)) (.cons (.itself (by decide) (by decide)) .nil))))
  have hvalues : Document.values linedDetector "name.keyword" = [.int 1, .text "a]\n.c"] := rfl
  obtain ⟨⟨answer, hanswer, htakes⟩, -⟩ :=
    wildcard_takes linedDetector "name.keyword" "a*?.c" hplain
  obtain rfl := htakes.2 ⟨_, hvalues ▸ List.mem_cons_of_mem _ List.mem_cons_self, hspelled⟩
  exact ⟨hplain, hspelled, hanswer⟩

end DetectorSearch
