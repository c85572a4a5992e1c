import ApiView.Build.OpenApi3
import ApiView.Build.Swagger2
import ApiView.Proofs.Outcomes
import ApiView.Proofs.Text.Whole

/-!
# Headers — lists of content types

A 2.0 operation lists what it produces, and a 3.x operation collects it from its responses.  This file
says what both lists come to when they are lists of texts:

* `quotedList_str`: a list of texts in quotes;
* `headerOf_quotedTexts`: whole texts make a header;
* `outcome_headers_null`: the headers of a 2.0 operation that consumes nothing;
* `firstAppearances_append`: texts that have all appeared before add nothing.
-/

namespace ApiView
namespace Build

/-! ## Texts -/

theorem displayedAll_str (texts : List String) : displayedAll (texts.map .str) = .ok texts := by
  refine mapM_eq_ok_iff.2 ?_
  induction texts with
  | nil =>
      exact List.Forall₂.nil
  | cons t rest ih =>
      exact List.Forall₂.cons rfl ih

theorem quotedList_str (texts : List String) :
    quotedList (.list (texts.map .str)) = .ok (quotedTexts texts) := by
  simp only [quotedList, bind_eq_ok_iff, pure_eq_ok_iff]
  exact ⟨_, rfl, texts, displayedAll_str texts, rfl⟩

/-- Whole texts can be sent in a header. -/
theorem headerOf_quotedTexts {name : String} {texts : List String} :
    (∀ t ∈ texts, Text.isWhole t = true) →
      headerOf name (quotedTexts texts) = .ok ⟨name, quotedTexts texts⟩ := by
  intro hwhole
  have hquoted : Text.isWhole (quotedTexts texts) = true := Text.isWhole_quoted hwhole
  refine accept_eq_ok_iff.2 ⟨?_, rfl⟩
  simp [Value.textProblems, Value.textProblemsAt, Value.str, Value.fieldText, hquoted]

/-- A 2.0 operation that consumes nothing has no header for it. -/
theorem outcome_headers_null (strict : Bool) (op : Operation) (produces : Value) :
    (Swagger2.headers strict op produces .null).outcome = Swagger2.acceptHeader produces := by
  have hnone : Swagger2.contentTypeHeader strict op .null = pure [] := rfl
  rw [Swagger2.headers, hnone]
  simp only [Traced.outcome_bind, Traced.outcome_lift, Traced.outcome_pure, ok_bind, List.append_nil]
  cases Swagger2.acceptHeader produces <;> rfl

/-! ## First appearances -/

namespace OpenApi3

/-- A text joins those that were seen, unless it is one of them. -/
def see (seen : List String) (t : String) : List String :=
  if seen.contains t then seen else t :: seen

/-- First appearances are gathered in one pass. -/
theorem firstAppearances_eq (texts : List String) :
    firstAppearances texts = (texts.foldl see []).reverse := rfl

theorem foldl_see_of_subset {texts seen : List String} :
    (∀ t ∈ texts, t ∈ seen) → texts.foldl see seen = seen := by
  intro hsubset
  induction texts with
  | nil =>
      rfl
  | cons t rest ih =>
      have ht : see seen t = seen := by
        simp [see, hsubset t (List.mem_cons_self ..)]
      rw [List.foldl_cons, ht, ih fun u hu => hsubset u (List.mem_cons_of_mem _ hu)]

theorem foldl_see_of_nodup {texts seen : List String} :
    texts.Nodup → (∀ t ∈ texts, t ∉ seen) → texts.foldl see seen = texts.reverse ++ seen := by
  intro hnodup hfresh
  -- The row of seen texts grows, so that the rest has to be new to a longer row each time.
  induction texts generalizing seen with
  | nil =>
      rfl
  | cons t rest ih =>
      rcases List.nodup_cons.1 hnodup with ⟨hnotin, hrest⟩
      have ht : see seen t = t :: seen := by
        simp [see, hfresh t (List.mem_cons_self ..)]
      have hfresh' : ∀ u ∈ rest, u ∉ t :: seen := by
        intro u hu hseen
        rcases List.mem_cons.1 hseen with rfl | hold
        · exact hnotin hu
        · exact hfresh u (List.mem_cons_of_mem _ hu) hold
      rw [List.foldl_cons, ht, ih hrest hfresh']
      simp

/-- Texts that have all appeared before add nothing. -/
theorem firstAppearances_append {texts more : List String} :
    texts.Nodup → (∀ t ∈ more, t ∈ texts) → firstAppearances (texts ++ more) = texts := by
  intro hnodup hmore
  have hseen : texts.foldl see [] = texts.reverse := by
    rw [foldl_see_of_nodup hnodup fun _ _ => List.not_mem_nil, List.append_nil]
  rw [firstAppearances_eq, List.foldl_append, hseen,
    foldl_see_of_subset fun t ht => List.mem_reverse.2 (hmore t ht), List.reverse_reverse]

end OpenApi3
end Build
end ApiView
