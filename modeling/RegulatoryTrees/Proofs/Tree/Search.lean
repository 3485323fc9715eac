import RegulatoryTrees.Proofs.Text.Lowercase
import RegulatoryTrees.Proofs.Tree.Traversals

/-!
# Searching a tree

A search lists the identifiers of the nodes that mention a text in the order of the first ones that do, each once
(`listsFirsts_search`). It compares lowercases, so it finds the nodes that quote the text as far as lowercase keeps the occurrences of
the text in others: for all trees exactly if its capital sigmas are settled within it (`search_lists_mentions`).
-/

namespace RegulatoryTrees

/-- A text occurs within another if it is a part of it. -/
theorem occursWithin_iff {needle text : List Char} : occursWithin needle text = true ↔ needle <:+: text := by
  induction text with
  | nil => rw [occursWithin, List.isEmpty_iff, List.infix_nil]
  | cons c text ih => rw [occursWithin, Bool.or_eq_true, List.isPrefixOf_iff_prefix, ih, List.infix_cons_iff]

namespace Node

/-! ## Mentions and quotations -/

/-- The decision of a leaf. -/
def decision? : Node → Option String
  | .leaf l => some l.decision
  | _ => none

/-- The texts that a node has: its identifier, its label, the fact path of a condition and the decision of a leaf. -/
def texts (n : Node) : List String := n.id :: (n.header.label.toList ++ n.factPath?.toList ++ n.decision?.toList)

/-- One of the texts of a node contains a text as it is. -/
def Quotes (n : Node) (query : String) : Prop := ∃ text ∈ n.texts, query.toList <:+: text.toList

/-- The texts that are searched are the identifier, the label and, where there are some, the fact path and the decision. -/
theorem searchedTexts_eq (n : Node) :
    n.searchedTexts = [n.id, n.header.label.getD ""] ++ (n.factPath?.toList ++ n.decision?.toList) := by
  cases n <;> rfl

/-- A search looks through the texts of a node, and through an empty one in place of a label that it does not have. -/
theorem mem_searchedTexts {n : Node} {text : String} :
    text ∈ n.searchedTexts ↔ text ∈ n.texts ∨ n.header.label = none ∧ text = "" := by
  rw [searchedTexts_eq, texts]
  cases n.header.label with
  | none => simp [or_assoc, or_comm]
  | some label => simp

/-- A node mentions a text if one of its own texts contains it, case aside. A text that is not there is searched as an empty
one; what stands in that is empty and stands in the identifier too. -/
theorem mentions_iff {query : String} {n : Node} :
    n.mentions query = true ↔ ∃ text ∈ n.texts, (Text.lowercase query).toList <:+: (Text.lowercase text).toList := by
  rw [mentions, List.any_eq_true]
  simp only [occursWithin_iff]
  constructor
  · rintro ⟨text, htext, hquery⟩
    rcases mem_searchedTexts.1 htext with htext | ⟨-, rfl⟩
    · exact ⟨text, htext, hquery⟩
    · refine ⟨n.id, List.mem_cons_self, ?_⟩
      rw [List.infix_nil.1 hquery]
      exact List.nil_infix
  · exact fun ⟨text, htext, hquery⟩ => ⟨text, mem_searchedTexts.2 (.inl htext), hquery⟩

/-! ## Search -/

/-- The identifier of a node that mentions a text. -/
def mentionedId? (query : String) (n : Node) : Option String := if n.mentions query then some n.id else none

/-- A search lists the identifiers of the nodes that mention the query, in the order of the walk. -/
theorem listsFirsts_search (query : String) (tree : Node) : ListsFirsts (mentionedId? query) tree.walk (tree.search query) := by
  have heq : (tree.walk.filter (mentions query)).map id = tree.walk.filterMap (mentionedId? query) := by
    rw [← List.filterMap_eq_map, List.filterMap_filter]
    rfl
  rw [search, heq]
  exact listsFirsts_eraseDups _ _

/-- A search finds the identifier of a node if the node mentions the query. -/
theorem mem_search {query text : String} {tree : Node} :
    text ∈ tree.search query ↔ ∃ n ∈ tree.walk, n.mentions query = true ∧ n.id = text := by
  rw [(listsFirsts_search query tree).mem_iff]
  simp [mentionedId?]

theorem walk_leaf (l : Leaf) : (Node.leaf l).walk = [.leaf l] := by simp [walk_eq_preorder, preorder]

/-- Every node that quotes a text is found, in every tree, exactly if the capital sigmas of the text are settled. A leaf with a
text for its identifier and decision mentions nothing but what the text does. -/
theorem quotes_found_iff (query : String) :
    (∀ tree : Node, ∀ n ∈ tree.walk, n.Quotes query → n.id ∈ tree.search query) ↔ Text.SettlesSigmas query.toList := by
  rw [Text.settlesSigmas_iff]
  constructor
  · intro h text hquery
    have hfound := h (.leaf (Licence.leaf text .compliant)) _ (mem_walk_self _) ⟨text, List.mem_cons_self, hquery⟩
    obtain ⟨n, hn, hmentions, -⟩ := mem_search.1 hfound
    rw [walk_leaf, List.mem_singleton] at hn
    subst hn
    obtain ⟨text', htext', hlower⟩ := mentions_iff.1 hmentions
    obtain rfl : text' = text := by simpa using (show text' ∈ [text, text] from htext')
    exact hlower
  · rintro h tree n hn ⟨text, htext, hquery⟩
    exact mem_search.2 ⟨n, hn, mentions_iff.2 ⟨text, htext, h text hquery⟩, rfl⟩

/-- A search lists identifiers each once, in the order of the first nodes that mention the text, and a node mentions it if one of its
texts contains it, case aside. So it finds what quotes the text as it is wherever lowercase keeps its occurrences: in all trees
exactly if its capital sigmas are settled. -/
theorem search_lists_mentions (query : String) :
    (∀ tree : Node, ListsFirsts (mentionedId? query) tree.preorder (tree.search query)) ∧
      (∀ n : Node, n.mentions query = true ↔
        ∃ text ∈ n.texts, (Text.lowercase query).toList <:+: (Text.lowercase text).toList) ∧
      ((∀ tree : Node, ∀ n ∈ tree.walk, n.Quotes query → n.id ∈ tree.search query) ↔ Text.SettlesSigmas query.toList) := by
  refine ⟨fun tree => ?_, fun n => mentions_iff, quotes_found_iff query⟩
  rw [← walk_eq_preorder]
  exact listsFirsts_search query tree

/-- A leaf that decides in Greek. -/
def offer : Node := .leaf ⟨Licence.header "offer", "ΠΡΟΣΦΟΡΑ", .compliant, [], none⟩

theorem texts_offer : offer.texts = ["offer", "ΠΡΟΣΦΟΡΑ"] := rfl

/-- The sigma of this text stands between letters, and the leaf that quotes it is found. -/
theorem search_lists_mentions_offer :
    Text.SettlesSigmas "ΠΡΟΣΦΟΡ".toList ∧ offer.Quotes "ΠΡΟΣΦΟΡ" ∧ "offer" ∈ offer.search "ΠΡΟΣΦΟΡ" := by
  have hsettled : Text.SettlesSigmas "ΠΡΟΣΦΟΡ".toList := by
    intro before after hpart
    have hsplit : ['Π', 'Ρ', 'Ο'] ++ 'Σ' :: ['Φ', 'Ο', 'Ρ'] = before ++ 'Σ' :: after := hpart
    obtain ⟨rfl, -, rfl⟩ := (List.append_cons_inj_of_notMem (by decide) (by decide)).1 hsplit
    obtain ⟨hignorable, hletter⟩ := Text.isLetterWithCase_capitals 'Φ' (by decide)
    exact .inr (.inl ⟨'Φ', by rw [Text.nearest?_cons, hignorable, if_neg Bool.false_ne_true], hletter⟩)
  have hquotes : offer.Quotes "ΠΡΟΣΦΟΡ" := ⟨"ΠΡΟΣΦΟΡΑ", by simp [texts_offer], ⟨[], ['Α'], rfl⟩⟩
  exact ⟨hsettled, hquotes, (search_lists_mentions "ΠΡΟΣΦΟΡ").2.2.2 hsettled offer offer (mem_walk_self offer) hquotes⟩

/-- Lowered apart from their surroundings, none of these capitals is a final sigma. -/
theorem notMem_map_lowerChar {part : List Char} (h : part ⊆ Text.capitals) : 'ς' ∉ part.map Text.lowerChar := by
  intro hmem
  have hcapitals := List.map_subset Text.lowerChar h hmem
  rw [Text.map_lowerChar_capitals] at hcapitals
  exact absurd hcapitals (by decide)

/-- Neither text of the leaf has a final sigma in lowercase. -/
theorem notMem_lowercase_offer : ∀ text ∈ offer.texts, 'ς' ∉ (Text.lowercase text).toList := by
  rw [texts_offer, List.forall_mem_cons, List.forall_mem_singleton, Text.toList_lowercase, Text.toList_lowercase]
  constructor
  · rw [Text.lowerWithin_of_notMem (by decide) (by decide)]
    decide
  · rw [show "ΠΡΟΣΦΟΡΑ".toList = ['Π', 'Ρ', 'Ο'] ++ 'Σ' :: ['Φ', 'Ο', 'Ρ', 'Α'] from rfl, Text.lowerWithin_sigma,
      List.append_nil ['Φ', 'Ο', 'Ρ', 'Α'], Text.meetsLetter_cons (by decide), Bool.not_true, Bool.and_false,
      if_neg Bool.false_ne_true, Text.lowerWithin_of_notMem (by decide) (by decide), Text.lowerWithin_of_notMem (by decide) (by decide), List.mem_append,
      List.mem_cons, not_or, not_or]
    exact ⟨notMem_map_lowerChar (by decide), by decide, notMem_map_lowerChar (by decide)⟩

/-- The sigma of this text becomes a final one at its end, and the leaf that quotes it is not found. -/
theorem search_misses_offer : offer.Quotes "ΠΡΟΣ" ∧ offer.search "ΠΡΟΣ" = [] := by
  have hfinal : 'ς' ∈ (Text.lowercase "ΠΡΟΣ").toList := by
    obtain ⟨hignorable, hletter⟩ := Text.isLetterWithCase_capitals 'Ο' (by decide)
    have hbefore : Text.nearest? ['Π', 'Ρ', 'Ο'].reverse = some 'Ο' := by
      rw [show ['Π', 'Ρ', 'Ο'].reverse = ['Ο', 'Ρ', 'Π'] from rfl, Text.nearest?_cons, hignorable, if_neg Bool.false_ne_true]
    rw [Text.toList_lowercase, show "ΠΡΟΣ".toList = ['Π', 'Ρ', 'Ο'] ++ 'Σ' :: [] from rfl,
      Text.lowerWithin_of_trailing hbefore hletter rfl, Text.meetsLetter, if_neg Bool.false_ne_true]
    exact List.mem_append_right _ List.mem_cons_self
  refine ⟨⟨"ΠΡΟΣΦΟΡΑ", by simp [texts_offer], ⟨[], ['Φ', 'Ο', 'Ρ', 'Α'], rfl⟩⟩, List.eq_nil_iff_forall_not_mem.2 fun id hid => ?_⟩
  obtain ⟨n, hn, hmentions, -⟩ := mem_search.1 hid
  obtain rfl : n = offer := List.mem_singleton.1 (walk_leaf _ ▸ hn)
  obtain ⟨text, htext, hquery⟩ := mentions_iff.1 hmentions
  exact notMem_lowercase_offer text htext (hquery.subset hfinal)

end Node

end RegulatoryTrees
