import PortGraph.Proofs.Registry.Registration
import PortGraph.Proofs.Text.Lowercase
import Mathlib.Data.List.TakeWhile

/-!
# What a search finds

A search puts the query and the texts of a manifest into lowercase, each as a whole, and looks for
the one in the other. It is meant to find more than what is there letter for letter. But a manifest
that mentions the query letter for letter is only found if the query has in the text the lowercase
that it has alone, and of a capital sigma this depends on the characters around it.

So there are queries with which a search never misses a mention, whatever is registered, and queries
with which it does. They are told apart by the query alone: those of the first kind are the settled
ones, all queries without a capital sigma among them.

## Main definitions

* `Manifest.Mentions`: a text is there letter for letter
* `Registry.IsSearched`: what holds of the answer to any query

## Main results

* `Registry.mem_search_iff`: what is found
* `Registry.search_finds_mentions_iff`: the queries with which no mention is missed
-/

namespace PortGraph

/-- The texts of a manifest that are searched. -/
def Manifest.texts (m : Manifest) : List String := [m.type, m.label, m.description]

/-- A manifest mentions a text letter for letter. -/
def Manifest.Mentions (m : Manifest) (text : String) : Prop :=
  ∃ s ∈ m.texts, text.toList <:+: s.toList

namespace Registry

variable {β : Type} {r : Registry β} {m : Manifest} {query : String}

/-- What holds of the answer to any query. -/
structure IsSearched (r : Registry β) (query : String) : Prop where
  /-- The types are in ascending order, so none is found twice. -/
  sorted : (r.search query).Pairwise (·.type < ·.type)
  sublist : (r.search query).Sublist r.manifests
  all_of_blank : Text.isBlankText query = true → r.search query = r.manifests
  /-- A mention is found if the query has in its place the lowercase that it has alone. -/
  finds : ∀ m ∈ r.manifests, ∀ s ∈ m.texts, ∀ before after,
    s.toList = before ++ (Text.trim query).toList ++ after →
      Text.formsIn before.reverse (Text.trim query).toList after =
          Text.formsIn [] (Text.trim query).toList [] →
        m ∈ r.search query

theorem toList_lowercase (s : String) :
    (Text.lowercase s).toList = Text.formsIn [] s.toList [] := by
  rw [Text.lowercase, String.toList_ofList, Text.lowercaseFrom_eq]

/-- **What is found** is what has the lowercase of the query in that of one of its texts. -/
theorem mem_search_iff : m ∈ r.search query ↔ m ∈ r.manifests ∧ ∃ s ∈ m.texts,
    Text.formsIn [] (Text.trim query).toList [] <:+: Text.formsIn [] s.toList [] := by
  simp only [search, List.mem_filter, Bool.or_eq_true, decide_eq_true_eq, Text.contains_iff,
    toList_lowercase, Manifest.texts, List.mem_cons, List.not_mem_nil, or_false, exists_eq_or_imp,
    exists_eq_left]
  refine and_congr_right fun _ => ?_
  constructor
  · rintro (((hempty | h) | h) | h)
    · have hnil : Text.formsIn [] (Text.trim query).toList [] = [] := by
        rw [← toList_lowercase, hempty]
        rfl
      rw [hnil]
      exact .inl List.nil_infix
    · exact .inl h
    · exact .inr (.inl h)
    · exact .inr (.inr h)
  · rintro (h | h | h)
    · exact .inl (.inl (.inr h))
    · exact .inl (.inr h)
    · exact .inr h

theorem trim_of_isBlankText (h : Text.isBlankText query = true) : Text.trim query = "" := by
  have hdrop : query.toList.dropWhile Text.isBlank = [] :=
    List.dropWhile_eq_nil_iff.mpr fun c hc => List.all_eq_true.mp h c hc
  rw [Text.trim, Text.trimChars, hdrop]
  rfl

/-- **What holds of the answer to any query.** -/
theorem Reachable.isSearched (h : r.Reachable) (query : String) : r.IsSearched query where
  sorted := h.pairwise_filter _
  sublist := List.filter_sublist
  all_of_blank hblank := by
    refine List.filter_eq_self.mpr fun m hm => ?_
    have hfound : m ∈ r.search query := by
      refine mem_search_iff.mpr ⟨hm, m.type, by simp [Manifest.texts], ?_⟩
      rw [trim_of_isBlankText hblank]
      exact List.nil_infix
    exact (List.mem_filter.mp hfound).2
  finds m hm s hs before after htext hforms := by
    refine mem_search_iff.mpr ⟨hm, s, hs, ?_⟩
    rw [htext, ← hforms]
    exact Text.formsIn_infix before _ after

theorem mem_of_mem_trim {c : Char} (h : c ∈ (Text.trim query).toList) : c ∈ query.toList := by
  rw [Text.trim, String.toList_ofList, Text.trimChars, List.mem_reverse] at h
  exact List.dropWhile_subset _ (List.mem_reverse.mp (List.dropWhile_subset _ h))

/-! ### A type with a label -/

/-- The manifest of a type with a label. -/
def labelled (label : String) : Manifest := { Manifest.named "t" "1" .utility with label := label }

/-- The registry of one type, with a label. -/
def ofLabel (label : String) : Registry β := ⟨Table.empty.insert "t" ⟨labelled label, none⟩⟩

theorem reachable_ofLabel (label : String) : (ofLabel label : Registry β).Reachable := by
  have hproblem : (labelled label).problem? = none := by
    have htype : Text.isBlankText "t" = false := by decide +kernel
    have hversion : Text.isBlankText "1" = false := by decide +kernel
    simp [labelled, Manifest.named, Manifest.problem?, htype, hversion, Manifest.portProblem?,
      Manifest.fieldProblem?]
  exact .register .empty (register_eq_ok_iff.mpr ⟨hproblem, rfl, rfl⟩ :
    empty.register (labelled label) none = .ok (ofLabel label))

/-- A query with a capital sigma finds the type only if the label has its lowercase. -/
theorem infix_of_mem_search_ofLabel {label : String} (h : Text.sigma ∈ (Text.trim query).toList)
    (hm : m ∈ (ofLabel label : Registry β).search query) :
    Text.formsIn [] (Text.trim query).toList [] <:+: Text.formsIn [] label.toList [] := by
  obtain ⟨hmem, s, hs, hin⟩ := mem_search_iff.mp hm
  obtain rfl : m = labelled label := List.mem_singleton.mp hmem
  obtain ⟨final, hfinal⟩ := Text.exists_sigmaForm_mem h
  have hform := hin.subset hfinal
  have hs : s = "t" ∨ s = label ∨ s = "" := by
    simpa [Manifest.texts, labelled, Manifest.named] using hs
  rcases hs with rfl | rfl | rfl
  · exact absurd hform (by cases final <;> decide +kernel)
  · exact hin
  · exact absurd hform (by cases final <;> decide +kernel)

/-- **The queries with which no mention is missed**, whatever is registered, are those that are
settled when blanks have been cut off. Queries without a capital sigma are. -/
theorem search_finds_mentions_iff (query : String) :
    ((∀ r : Registry β, r.Reachable → ∀ m ∈ r.manifests, m.Mentions (Text.trim query) →
        m ∈ r.search query) ↔ Text.IsSettled (Text.trim query).toList) ∧
      (Text.sigma ∉ query.toList → Text.IsSettled (Text.trim query).toList) ∧
      ∀ r : Registry β, r.Reachable → r.IsSearched query := by
  refine ⟨⟨fun h => ?_, fun h r hr m hm hmentions => ?_⟩, fun h => ?_,
    fun r hr => hr.isSearched query⟩
  · by_contra hsettled
    obtain ⟨text, hpart, hlost⟩ := Text.exists_lost hsettled
    have hsigma : Text.sigma ∈ (Text.trim query).toList := by
      by_contra hno
      exact hsettled (Text.isSettled_of_notMem hno)
    -- The text that loses the query is the label of a type.
    obtain ⟨label, rfl⟩ : ∃ label : String, text = label.toList :=
      ⟨String.ofList text, String.toList_ofList.symm⟩
    have hmentions : (labelled label).Mentions (Text.trim query) :=
      ⟨label, by simp [Manifest.texts, labelled], hpart⟩
    have hfound := h (ofLabel label) (reachable_ofLabel label) _ (List.mem_singleton_self _)
      hmentions
    exact hlost (infix_of_mem_search_ofLabel hsigma hfound)
  · obtain ⟨s, hs, before, after, htext⟩ := hmentions
    exact (hr.isSearched query).finds m hm s hs before after htext.symm (h.formsIn_eq _ _)
  · exact Text.isSettled_of_notMem fun hin => h (mem_of_mem_trim hin)

/-- **A mention can be missed**: the query is a word that ends in a capital sigma, and the label a
longer word that begins with it. -/
theorem search_misses_mention :
    ¬ ∀ (r : Registry Unit) (query : String) (m : Manifest), r.Reachable → m ∈ r.manifests →
      m.Mentions (Text.trim query) → m ∈ r.search query := by
  intro h
  have hmentions : (labelled "ΦΟΡΟΣΗΜΟ").Mentions (Text.trim "ΦΟΡΟΣ") :=
    ⟨"ΦΟΡΟΣΗΜΟ", by decide +kernel, [], "ΗΜΟ".toList, by decide +kernel⟩
  have hfound := h (ofLabel "ΦΟΡΟΣΗΜΟ") "ΦΟΡΟΣ" _ (reachable_ofLabel _) (List.mem_singleton_self _)
    hmentions
  have hquery : (Text.trim "ΦΟΡΟΣ").toList = "ΦΟΡΟ".toList ++ Text.sigma :: [] := by
    decide +kernel
  have hlabel : "ΦΟΡΟΣΗΜΟ".toList = "ΦΟΡΟ".toList ++ Text.sigma :: [] ++ "ΗΜΟ".toList := by
    decide +kernel
  have hletter (c : Char) (hc : c = 'Ο' ∨ c = 'Η') (cs : List Char) :
      Text.seesCased (c :: cs) = true := by
    refine Text.seesCased_cons ?_ ?_ cs
    · rw [Text.isCaseIgnorable, Text.inRanges_eq]
      rcases hc with rfl | rfl <;> decide +kernel
    · rw [Text.isCased, Text.inRanges_eq]
      rcases hc with rfl | rfl <;> decide +kernel
  have hbefore : Text.seesCased "ΦΟΡΟ".toList.reverse = true := hletter 'Ο' (.inl rfl) _
  have hafter : Text.seesCased "ΗΜΟ".toList = true := hletter 'Η' (.inr rfl) _
  -- The sigma ends the query, but is not the last letter of the label.
  have hlost := Text.not_infix_followed "ΦΟΡΟ".toList [] "ΗΜΟ".toList
    (by rw [Text.isFinal, hbefore]; rfl) (by rw [Text.isFinal, List.nil_append, hafter]; simp)
    (by decide +kernel)
  have hin := infix_of_mem_search_ofLabel (by rw [hquery]; simp) hfound
  rw [hquery, hlabel] at hin
  exact hlost hin

end Registry

end PortGraph
