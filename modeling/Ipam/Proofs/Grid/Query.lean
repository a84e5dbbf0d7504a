import Ipam.Grid.Url
import Ipam.Proofs.Text.Percent
import Ipam.Proofs.Text.Pieces
import Ipam.Proofs.Traversal

/-!
# Queries that cannot be confused

Names and values of filters are written by users, and may hold the very marks that structure a URL.
Percent encoding leaves none of these marks, so that the only ones in a query are those between
filters, and between the name and the value of a filter.

* `Grid.Writes` — the written forms of a filter, by the rule of percent encoding.
* `Grid.cuts_queryString` — the pieces of a query are its filters in written form.
* `Grid.queryString_injective` — different filters have different queries.
* `Grid.Faithful` — what a reader sees of a path with a query.
* **`Grid.withQuery_faithful`** — paths without a question mark and filters are seen as they are.
-/

namespace Ipam.Grid

open Text

variable {path : String} {filters : List Filter} {f : Filter} {c : Char} {piece : List Char}

/-! ## Filters -/

/-- A filter in written form: name and value in written form around an equals sign. -/
def Writes (piece : List Char) (f : Filter) : Prop :=
  ∃ name value, piece = name ++ '=' :: value ∧ Encodes name f.1 ∧ Encodes value f.2

lemma writes_filterChars (f : Filter) : Writes (filterChars f) f :=
  ⟨_, _, rfl, encodes_encodePercent f.1, encodes_encodePercent f.2⟩

lemma Writes.mem (h : Writes piece f) (hc : c ∈ piece) : Unreserved c ∨ c = '%' ∨ c = '=' := by
  obtain ⟨name, value, rfl, hname, hvalue⟩ := h
  rcases List.mem_append.1 hc with hmem | hmem
  · exact (hname.mem hmem).imp_right .inl
  · rcases List.mem_cons.1 hmem with rfl | hmem
    · exact .inr (.inr rfl)
    · exact (hvalue.mem hmem).imp_right .inl

/-- A filter is read back, because the first equals sign is the one behind the name. -/
lemma Writes.filterOfChars?_eq (h : Writes piece f) : filterOfChars? piece = some f := by
  obtain ⟨name, value, rfl, hname, hvalue⟩ := h
  have hequals : '=' ∉ name := by
    intro hmem
    rcases hname.mem hmem with hc | hc <;> exact absurd hc (by decide)
  rw [filterOfChars?, splitOnce_append hequals]
  simp [hname.decodePercent?_eq, hvalue.decodePercent?_eq]

/-! ## Queries -/

lemma cuts_queryString (h : filters ≠ []) :
    Cuts '&' (queryString filters).toList (filters.map filterChars) where
  ne_nil := by simpa using h
  joined := by rw [queryString, String.toList_ofList]
  free := by
    simp only [List.forall_mem_map]
    intro f _ hmem
    rcases (writes_filterChars f).mem hmem with hc | hc | hc <;> exact absurd hc (by decide)

/-- Every character of a query is harmless, part of an escape, or one of the two marks of a query. -/
lemma mem_queryString (hne : filters ≠ []) (h : c ∈ (queryString filters).toList) :
    Unreserved c ∨ c = '%' ∨ c = '=' ∨ c = '&' := by
  rcases mem_splitOn '&' h with rfl | ⟨piece, hpiece, hmem⟩
  · exact .inr (.inr (.inr rfl))
  · rw [(cuts_queryString hne).splitOn_eq] at hpiece
    obtain ⟨f, -, rfl⟩ := List.mem_map.1 hpiece
    exact ((writes_filterChars f).mem hmem).imp_right (.imp_right .inl)

lemma withQuery_of_ne_nil (object : String) (h : filters ≠ []) :
    withQuery object filters = object ++ "?" ++ queryString filters := by
  rw [withQuery, if_neg (by simpa using h)]

/-- The first question mark is the one after the path. -/
lemma splitQuery?_append (hpath : '?' ∉ path.toList) (query : String) :
    splitQuery? (path ++ "?" ++ query)
      = ((splitOn '&' query.toList).mapM filterOfChars?).map (path, ·) := by
  have htext : (path ++ "?" ++ query).toList = path.toList ++ '?' :: query.toList := by
    have hmark : "?".toList = ['?'] := rfl
    simp [hmark]
  rw [splitQuery?, htext, splitOnce_append hpath]
  cases h : (splitOn '&' query.toList).mapM filterOfChars? <;> simp [h]

/-- The filters are read back from their query. -/
lemma mapM_filterOfChars?_queryString (hne : filters ≠ []) :
    (splitOn '&' (queryString filters).toList).mapM filterOfChars? = some filters := by
  rw [(cuts_queryString hne).splitOn_eq]
  exact Traversal.mapM_eq_some fun f _ => (writes_filterChars f).filterOfChars?_eq

/-- **Different filters have different queries.** -/
theorem queryString_injective : Function.Injective queryString := by
  have hempty : (splitOn '&' (queryString []).toList).mapM filterOfChars? = none := by decide
  intro filters others h
  rcases eq_or_ne filters [] with rfl | hfilters <;> rcases eq_or_ne others [] with rfl | hothers
  · rfl
  · rw [h, mapM_filterOfChars?_queryString hothers] at hempty
    cases hempty
  · rw [← h, mapM_filterOfChars?_queryString hfilters] at hempty
    cases hempty
  · have hread := mapM_filterOfChars?_queryString hfilters
    rw [h, mapM_filterOfChars?_queryString hothers] at hread
    exact (Option.some.inj hread).symm

/-! ## What a reader sees -/

/-- A path with a query shows the path and the filters as they are. -/
structure Faithful (path : String) (filters : List Filter) : Prop where
  /-- Cut at its first question mark, behind it at every ampersand, and each piece at its first
  equals sign, and decoded, the text gives back the path and the filters in order. -/
  read : splitQuery? (withQuery path filters) = some (path, filters)
  /-- The query stands behind the path and a question mark. -/
  placed : withQuery path filters = path ++ "?" ++ queryString filters
  /-- The pieces of the query are the filters in written form. -/
  written : ∃ pieces, Cuts '&' (queryString filters).toList pieces ∧
    List.Forall₂ Writes pieces filters
  /-- The query is that of no other filters. -/
  unique : ∀ others, queryString others = queryString filters → others = filters
  /-- Nothing in the query is a mark of a URL, such as the one that starts a fragment, but for those
  between and within the filters. -/
  inert : ∀ c ∈ (queryString filters).toList, Unreserved c ∨ c = '%' ∨ c = '=' ∨ c = '&'
  /-- No name and no value brings in another filter. -/
  separated : (queryString filters).toList.count '&' + 1 = filters.length

/-- **A path without question mark and its filters are seen as they are,** whatever is in the
names and values of the filters. -/
theorem withQuery_faithful (hpath : '?' ∉ path.toList) (hne : filters ≠ []) :
    Faithful path filters where
  read := by
    rw [withQuery_of_ne_nil path hne, splitQuery?_append hpath, mapM_filterOfChars?_queryString hne]
    rfl
  placed := withQuery_of_ne_nil path hne
  written := by
    refine ⟨_, cuts_queryString hne, ?_⟩
    rw [List.forall₂_map_left_iff]
    exact List.forall₂_same.2 fun f _ => writes_filterChars f
  unique others h := queryString_injective h
  inert c h := mem_queryString hne h
  separated := by rw [← (cuts_queryString hne).length_eq, List.length_map]

/-- Marks, escapes and empty texts in names and values, and characters of several bytes. -/
theorem withQuery_faithful_of_marks :
    '?' ∉ "record:a".toList ∧
      [("name", "a&b=c#d?e%41/+"), ("", ""), ("größe=€", "名 😀")] ≠ ([] : List Filter) ∧
      Faithful "record:a" [("name", "a&b=c#d?e%41/+"), ("", ""), ("größe=€", "名 😀")] := by
  have hpath : '?' ∉ "record:a".toList := by decide
  have hne : [("name", "a&b=c#d?e%41/+"), ("", ""), ("größe=€", "名 😀")] ≠ ([] : List Filter) :=
    List.cons_ne_nil _ _
  exact ⟨hpath, hne, withQuery_faithful hpath hne⟩

example : withQuery "network" [("network", "10.0.0.0/24"), ("network_view", "a&b")]
    = "network?network=10.0.0.0%2F24&network_view=a%26b" := by cbv

end Ipam.Grid
