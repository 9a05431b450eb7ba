import Bookshop.Fetch.Client
import Mathlib.Data.List.DropRight

/-!
# Addresses that paths stand for

A client puts a path behind the address of its service, and leaves out the slashes at the end of that
address, however many there are. A text that begins with a scheme is an address already and stays as
it is. So a path leads to one address, which stands for itself, provided that the address of the
service still begins with a scheme when its slashes are gone.

The main statement is `resolve_stable`.
-/

namespace Bookshop.Client

/-! ### Slashes at the end -/

def withSlashes (text : String) (count : Nat) : String :=
  text ++ String.ofList (List.replicate count '/')

/-- The text is the stem with slashes behind it, and the stem does not end with one itself. -/
structure IsStem (stem text : String) : Prop where
  exists_count : ∃ count, text = withSlashes stem count
  bare : stem.toList.getLast? ≠ some '/'

theorem toList_trimSlashes (text : String) :
    (trimSlashes text).toList = text.toList.rdropWhile (· = '/') := by
  rw [trimSlashes, String.toList_ofList, List.rdropWhile]

/-- However many slashes stand at the end, they are all left out. -/
theorem trimSlashes_withSlashes (text : String) (count : Nat) :
    trimSlashes (withSlashes text count) = trimSlashes text := by
  rw [← String.toList_inj, toList_trimSlashes, toList_trimSlashes, withSlashes,
    String.toList_append, String.toList_ofList]
  induction count with
  | zero => rw [List.replicate_zero, List.append_nil]
  | succ count ih =>
    rw [List.replicate_succ', ← List.append_assoc, List.rdropWhile_concat_pos _ _ _ (by decide), ih]

/-- What is left is the stem of the text, and nothing else is. -/
theorem trimSlashes_eq_iff {text stem : String} : trimSlashes text = stem ↔ IsStem stem text := by
  constructor
  · rintro rfl
    constructor
    · refine ⟨(text.toList.rtakeWhile (· = '/')).length, ?_⟩
      have hslashes : text.toList.rtakeWhile (· = '/') =
          List.replicate (text.toList.rtakeWhile (· = '/')).length '/' := by
        apply List.eq_replicate_of_mem
        intro c hc
        have hslash := List.mem_rtakeWhile_imp hc
        exact of_decide_eq_true hslash
      rw [← String.toList_inj, withSlashes, String.toList_append, String.toList_ofList,
        toList_trimSlashes, ← hslashes, List.rdropWhile_append_rtakeWhile]
    · intro hlast
      rw [toList_trimSlashes] at hlast
      obtain ⟨hne, hslash⟩ := List.mem_getLast?_eq_getLast hlast
      have hnot := List.rdropWhile_last_not (· = '/') text.toList hne
      exact hnot (by rw [← hslash]; decide)
  · rintro ⟨⟨count, rfl⟩, hbare⟩
    rw [trimSlashes_withSlashes, ← String.toList_inj, toList_trimSlashes,
      List.rdropWhile_eq_self_iff]
    intro hne hslash
    apply hbare
    rw [List.getLast?_eq_some_getLast hne, of_decide_eq_true hslash]

/-! ### Schemes -/

def HasScheme (url : String) : Prop :=
  "http://".toList <+: url.toList ∨ "https://".toList <+: url.toList

instance (url : String) : Decidable (HasScheme url) := instDecidableOr

theorem isAbsolute_iff {url : String} : isAbsolute url = true ↔ HasScheme url := by
  rw [isAbsolute, Bool.or_eq_true, beginsWith, beginsWith, List.isPrefixOf_iff_prefix,
    List.isPrefixOf_iff_prefix, HasScheme]

theorem HasScheme.append {url : String} (h : HasScheme url) (path : String) :
    HasScheme (url ++ path) := by
  rw [HasScheme, String.toList_append]
  rcases h with h | h
  · exact .inl (h.trans (List.prefix_append _ _))
  · exact .inr (h.trans (List.prefix_append _ _))

/-! ### Addresses -/

variable {client : Client} {base stem url : String}

theorem resolve_of_hasScheme (client : Client) (h : HasScheme url) : client.resolve url = url := by
  unfold resolve
  split
  · rw [if_pos (isAbsolute_iff.2 h)]
  · rfl

theorem resolve_of_path (hbase : client.baseUrl = some base) (hstem : IsStem stem base)
    (h : ¬ HasScheme url) : client.resolve url = stem ++ url := by
  simp only [resolve, hbase]
  rw [if_neg (mt isAbsolute_iff.1 h), trimSlashes_eq_iff.2 hstem]

theorem hasScheme_resolve (hbase : client.baseUrl = some base) (hstem : IsStem stem base)
    (hscheme : HasScheme stem) (url : String) : HasScheme (client.resolve url) := by
  by_cases h : HasScheme url
  · rwa [resolve_of_hasScheme client h]
  · rw [resolve_of_path hbase hstem h]
    exact hscheme.append url

/-- **Addresses are stable.** Let the address of the service begin with a scheme even without the
    slashes at its end. Then every text leads to an address that begins with a scheme, and that
    address leads to itself. A service whose address has more or fewer slashes at its end is reached
    at the same addresses. Different paths lead to different addresses. -/
theorem resolve_stable (hbase : client.baseUrl = some base) (hstem : IsStem stem base)
    (hscheme : HasScheme stem) :
    (∀ url, client.resolve (client.resolve url) = client.resolve url) ∧
      (∀ url, HasScheme (client.resolve url)) ∧
      (∀ text count count', base = withSlashes text count →
        ∀ other : Client, other.baseUrl = some (withSlashes text count') →
          ∀ url, other.resolve url = client.resolve url) ∧
      ∀ url url', ¬ HasScheme url → ¬ HasScheme url' →
        client.resolve url = client.resolve url' → url = url' := by
  refine ⟨?_, hasScheme_resolve hbase hstem hscheme, ?_, ?_⟩
  · intro url
    exact resolve_of_hasScheme client (hasScheme_resolve hbase hstem hscheme url)
  · rintro text count count' rfl other hother url
    have hstem' : IsStem stem (withSlashes text count') := by
      rw [← trimSlashes_eq_iff, trimSlashes_withSlashes] at hstem ⊢
      exact hstem
    by_cases h : HasScheme url
    · rw [resolve_of_hasScheme other h, resolve_of_hasScheme client h]
    · rw [resolve_of_path hother hstem' h, resolve_of_path hbase hstem h]
  · intro url url' h h' hsame
    rw [resolve_of_path hbase hstem h, resolve_of_path hbase hstem h', ← String.toList_inj,
      String.toList_append, String.toList_append] at hsame
    exact String.toList_inj.1 (List.append_cancel_left hsame)

/-- Two slashes at the end of the address of a service make no difference. -/
theorem resolve_stable_slashes :
    let client : Client := { baseUrl := some "http://localhost:8989//" }
    let other : Client := { baseUrl := some "http://localhost:8989" }
    IsStem "http://localhost:8989" "http://localhost:8989//" ∧
      HasScheme "http://localhost:8989" ∧
      client.resolve (client.resolve "/api/orders") = client.resolve "/api/orders" ∧
      HasScheme (client.resolve "/api/orders") ∧
      other.resolve "/api/orders" = client.resolve "/api/orders" ∧
      client.resolve "/api/orders" = "http://localhost:8989/api/orders" := by
  intro client other
  have hbase : client.baseUrl = some "http://localhost:8989//" := rfl
  have hstem : IsStem "http://localhost:8989" "http://localhost:8989//" :=
    ⟨⟨2, by decide⟩, by decide⟩
  have hscheme : HasScheme "http://localhost:8989" := by decide
  obtain ⟨htwice, hresolved, hslashes, -⟩ := resolve_stable hbase hstem hscheme
  exact ⟨hstem, hscheme, htwice _, hresolved _,
    hslashes "http://localhost:8989" 2 0 (by decide) other rfl _, by decide⟩

-- A scheme alone loses its slashes, so that what paths lead to is a path again.
example :
    let client : Client := { baseUrl := some "http://" }
    client.resolve "/a" = "http:/a" ∧ client.resolve "http:/a" = "http:http:/a" := by
  decide

end Bookshop.Client
