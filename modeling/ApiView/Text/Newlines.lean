/-!
# Line breaks

* `unifyNewlines`: line breaks of every kind as `\n`;
* `unifyNewlines_eq_self`: a text without carriage returns stays as it is.
-/

namespace ApiView
namespace Text

/-- A text whose line breaks are all `\n`: a carriage return is one, and with the `\n` after it one
together. -/
def unifyNewlines : List Char → List Char
  | [] => []
  | '\r' :: '\n' :: rest => '\n' :: unifyNewlines rest
  | c :: rest => (if c == '\r' then '\n' else c) :: unifyNewlines rest

/-- A text without carriage returns stays as it is. -/
theorem unifyNewlines_eq_self (cs : List Char) (h : '\r' ∉ cs) : unifyNewlines cs = cs := by
  fun_induction unifyNewlines cs with
  | case1 => rfl
  | case2 rest ih => simp at h
  | case3 c rest _ ih =>
    simp only [List.mem_cons, not_or] at h
    have hc : (c == '\r') = false := by
      rw [beq_eq_false_iff_ne]
      exact fun e => h.1 e.symm
    simp [hc, ih h.2]

end Text
end ApiView
