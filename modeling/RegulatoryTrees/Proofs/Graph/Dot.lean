import RegulatoryTrees.Graph

/-!
# Reading the DOT language

A text in the DOT language is read in two steps: into tokens, which are strings within quotes and single characters outside of them
(`tokensFrom`), and from there, statement by statement, into the nodes and edges with their labels (`readTokens`). This is the
language as `Graph.dot` needs it: attributes other than the label, and statements about neither nodes nor edges, are passed over.
-/

namespace RegulatoryTrees

namespace Dot

/-- What a text is made of. -/
inductive Token where
  | string (text : List Char)
  | mark (c : Char)
  deriving DecidableEq

/-- Where in a text reading has come to: outside of quotes, or within them after some characters of the string, and there possibly
behind a backslash. -/
inductive Place where
  | outside
  | within (read : List Char)
  | shielded (read : List Char)

/-- The tokens of a text from a place on, if it does not end within quotes. Within quotes a backslash shields the character after
it, and a quote that is not shielded ends the string. -/
def tokensFrom : Place → List Char → Option (List Token)
  | .outside, [] => some []
  | .within _, [] | .shielded _, [] => none
  | .outside, c :: rest =>
    if c = '"' then tokensFrom (.within []) rest else (tokensFrom .outside rest).map (.mark c :: ·)
  | .within read, c :: rest =>
    if c = '"' then (tokensFrom .outside rest).map (.string read :: ·)
    else if c = '\\' then tokensFrom (.shielded read) rest
    else tokensFrom (.within (read ++ [c])) rest
  | .shielded read, c :: rest => tokensFrom (.within (read ++ [c])) rest

/-- What a text says. -/
inductive Statement where
  | vertex (id label : String)
  | edge (source target label : String)
  deriving DecidableEq

/-- The label in front of a list of attributes. -/
def label? : List Token → Option String
  | .mark '[' :: .mark 'l' :: .mark 'a' :: .mark 'b' :: .mark 'e' :: .mark 'l' :: .mark '=' :: .string label :: _ =>
    some (String.ofList label)
  | _ => none

/-- The statement of some tokens. One that starts with no string is about the graph as a whole. -/
def statement? : List Token → Option (Option Statement)
  | .string source :: .mark '-' :: .mark '>' :: .string target :: rest =>
    (label? rest).map fun label => some (.edge (String.ofList source) (String.ofList target) label)
  | .string id :: rest => (label? rest).map fun label => some (.vertex (String.ofList id) label)
  | _ => some none

/-- A token that stands between others only to keep them apart. -/
def Token.isBlank : Token → Bool
  | .mark c => c.isWhitespace
  | .string _ => false

/-- The statements of some tokens, each up to a semicolon. -/
def readTokens (ts : List Token) : Option (List Statement) :=
  (((ts.filter (!·.isBlank)).splitOn (.mark ';')).mapM statement?).map List.reduceOption

/-- The statements of the rest of a text, outside of quotes. -/
def readFrom (cs : List Char) : Option (List Statement) := (tokensFrom .outside cs).bind readTokens

/-- The statements of a text. -/
def read? (text : String) : Option (List Statement) := readFrom text.toList

/-! ## Tokens -/

/-- A text within quotes that is taken as it stands. -/
def IsPlain (s : String) : Prop := '"' ∉ s.toList ∧ '\\' ∉ s.toList

instance (s : String) : Decidable (IsPlain s) := inferInstanceAs (Decidable (_ ∧ _))

/-- A text within quotes. -/
def quote (cs : List Char) : List Char := '"' :: cs ++ ['"']

/-- Some characters stand for some tokens: outside of quotes they add these, whatever follows. -/
def Spells (cs : List Char) (ts : List Token) : Prop :=
  ∀ rest, tokensFrom .outside (cs ++ rest) = (tokensFrom .outside rest).map (ts ++ ·)

/-- What spells some tokens and then others spells all of them. -/
theorem Spells.append {cs cs' : List Char} {ts ts' : List Token} (h : Spells cs ts) (h' : Spells cs' ts') :
    Spells (cs ++ cs') (ts ++ ts') := by
  intro rest
  rw [List.append_assoc, h, h', Option.map_map]
  congr 1
  funext further
  exact (List.append_assoc ts ts' further).symm

/-- Characters without quotes stand for themselves one by one. -/
theorem spells_marks {cs : List Char} (h : '"' ∉ cs) : Spells cs (cs.map .mark) := by
  intro rest
  induction cs with
  | nil => simp
  | cons c cs ih =>
    rw [List.mem_cons, not_or] at h
    obtain ⟨hc, hcs⟩ := h
    rw [List.cons_append, tokensFrom, if_neg (Ne.symm hc), ih hcs, Option.map_map]
    rfl

/-- Within quotes, characters other than quotes and backslashes are read as they stand. -/
theorem tokensFrom_plain {cs : List Char} (hquote : '"' ∉ cs) (hbackslash : '\\' ∉ cs) (read rest : List Char) :
    tokensFrom (.within read) (cs ++ rest) = tokensFrom (.within (read ++ cs)) rest := by
  induction cs generalizing read with
  | nil => rw [List.append_nil, List.nil_append]
  | cons c cs ih =>
    rw [List.mem_cons, not_or] at hquote hbackslash
    rw [List.cons_append, tokensFrom, if_neg (Ne.symm hquote.1), if_neg (Ne.symm hbackslash.1), ih hquote.2 hbackslash.2,
      List.append_assoc, List.singleton_append]

/-- A character with a backslash before it if it needs one. -/
def shield (c : Char) : List Char := if c == '\\' || c == '"' then ['\\', c] else [c]

/-- A text is escaped character by character. -/
theorem toList_escape (s : String) : (Graph.escape s).toList = s.toList.flatMap shield := String.toList_ofList

/-- What is read of a shielded character is the character. -/
theorem tokensFrom_shield (c : Char) (read rest : List Char) :
    tokensFrom (.within read) (shield c ++ rest) = tokensFrom (.within (read ++ [c])) rest := by
  unfold shield
  by_cases hc : c = '\\' ∨ c = '"'
  · rw [if_pos (by simpa using hc)]
    simp [tokensFrom]
  · rw [if_neg (by simpa using hc)]
    rw [not_or] at hc
    simp [tokensFrom, hc]

/-- Within quotes, characters that are shielded are read as the characters themselves. -/
theorem tokensFrom_shielded (cs read rest : List Char) :
    tokensFrom (.within read) (cs.flatMap shield ++ rest) = tokensFrom (.within (read ++ cs)) rest := by
  induction cs generalizing read with
  | nil => rw [List.append_nil, List.flatMap_nil, List.nil_append]
  | cons c cs ih =>
    rw [List.flatMap_cons, List.append_assoc, tokensFrom_shield, ih, List.append_assoc, List.singleton_append]

/-- A quote after a plain text ends the string, which is the text. -/
theorem spells_plain {s : String} (h : IsPlain s) : Spells (quote s.toList) [.string s.toList] := by
  intro rest
  rw [quote, List.cons_append, List.cons_append, List.append_assoc, tokensFrom, if_pos rfl, tokensFrom_plain h.1 h.2]
  simp [tokensFrom]

/-- Whatever a text is, it is read back if it is escaped. -/
theorem spells_escape (s : String) : Spells (quote (Graph.escape s).toList) [.string s.toList] := by
  intro rest
  rw [quote, List.cons_append, List.cons_append, List.append_assoc, tokensFrom, if_pos rfl, toList_escape, tokensFrom_shielded]
  simp [tokensFrom]

/-- From within quotes the first token is a string, and it starts with what has been read of it. -/
theorem exists_string_of_tokensFrom (cs : List Char) {read : List Char} {ts : List Token}
    (h : tokensFrom (.within read) cs = some ts ∨ tokensFrom (.shielded read) cs = some ts) :
    ∃ text more, ts = .string (read ++ text) :: more := by
  induction cs generalizing read ts with
  | nil => simp [tokensFrom] at h
  | cons c cs ih =>
    have hread : tokensFrom (.within (read ++ [c])) cs = some ts → ∃ text more, ts = .string (read ++ text) :: more := by
      intro h
      obtain ⟨text, more, rfl⟩ := ih (Or.inl h)
      exact ⟨c :: text, more, by rw [List.append_assoc, List.singleton_append]⟩
    rcases h with h | h
    · rw [tokensFrom] at h
      split at h
      · obtain ⟨more, -, rfl⟩ := Option.map_eq_some_iff.1 h
        exact ⟨[], more, by rw [List.append_nil]⟩
      · split at h
        · exact ih (Or.inr h)
        · exact hread h
    · rw [tokensFrom] at h
      exact hread h

/-- A backslash among as many as one likes may stand before them as well as behind. -/
theorem eq_replicate_of_shielded {k : Nat} {c : Char} {text cs : List Char}
    (h : c :: text = List.replicate k '\\' ++ '\\' :: c :: cs) : text = List.replicate (k + 1) '\\' ++ cs := by
  have hshift : c :: text = '\\' :: (List.replicate k '\\' ++ c :: cs) := by
    rw [h, ← List.cons_append, ← List.replicate_succ, List.replicate_succ', List.append_assoc, List.singleton_append]
  injection hshift with hc htext
  rw [htext, hc, List.replicate_succ', List.append_assoc, List.singleton_append]

/-- What stands between two quotes is read as itself only if it has no quote and no backslash. Reading drops the first backslash, so
for the rest of a text to be read in its place there would have to be one more before it each time: this is ruled out for any
number of them. -/
theorem tokensFrom_eq_some (cs : List Char) {read rest : List Char} {ts : List Token}
    (h : tokensFrom (.within read) (cs ++ '"' :: rest) = some ts) :
    ∃ text more, ts = .string (read ++ text) :: more ∧
      ∀ k, text = List.replicate k '\\' ++ cs → k = 0 ∧ '"' ∉ cs ∧ '\\' ∉ cs := by
  match cs with
  | [] =>
    rw [List.nil_append, tokensFrom, if_pos rfl] at h
    obtain ⟨more, -, rfl⟩ := Option.map_eq_some_iff.1 h
    refine ⟨[], more, by rw [List.append_nil], ?_⟩
    intro k hk
    simpa using hk.symm
  | c :: cs =>
    rw [List.cons_append, tokensFrom] at h
    by_cases hquote : c = '"'
    · rw [if_pos hquote] at h
      obtain ⟨more, -, rfl⟩ := Option.map_eq_some_iff.1 h
      refine ⟨[], more, by rw [List.append_nil], ?_⟩
      intro k hk
      simp at hk
    · rw [if_neg hquote] at h
      by_cases hbackslash : c = '\\'
      · rw [if_pos hbackslash] at h
        subst hbackslash
        match cs with
        | [] =>
          rw [List.nil_append, tokensFrom] at h
          obtain ⟨text, more, rfl⟩ := exists_string_of_tokensFrom rest (Or.inl h)
          refine ⟨'"' :: text, more, by rw [List.append_assoc, List.singleton_append], ?_⟩
          intro k hk
          cases k <;> simp [List.replicate_succ] at hk
        | c :: cs =>
          rw [List.cons_append, tokensFrom] at h
          obtain ⟨text, more, rfl, hclean⟩ := tokensFrom_eq_some cs h
          refine ⟨c :: text, more, by rw [List.append_assoc, List.singleton_append], ?_⟩
          intro k hk
          exact absurd (hclean (k + 1) (eq_replicate_of_shielded hk)).1 (Nat.succ_ne_zero k)
      · rw [if_neg hbackslash] at h
        obtain ⟨text, more, rfl, hclean⟩ := tokensFrom_eq_some cs h
        refine ⟨c :: text, more, by rw [List.append_assoc, List.singleton_append], ?_⟩
        intro k hk
        cases k with
        | zero =>
          injection hk with _ htext
          obtain ⟨-, hcs, hcs'⟩ := hclean 0 htext
          exact ⟨rfl, List.not_mem_cons_of_ne_of_not_mem (Ne.symm hquote) hcs,
            List.not_mem_cons_of_ne_of_not_mem (Ne.symm hbackslash) hcs'⟩
        | succ k =>
          injection hk with hc _
          exact absurd hc hbackslash

/-- A text between quotes that is not plain is not read as itself. -/
theorem string_ne_of_not_plain {s : String} (hs : ¬IsPlain s) {rest : List Char} {ts : List Token}
    (h : tokensFrom .outside (quote s.toList ++ rest) = some ts) :
    ∃ text more, ts = .string text :: more ∧ text ≠ s.toList := by
  rw [quote, List.cons_append, List.cons_append, List.append_assoc, tokensFrom, if_pos rfl] at h
  obtain ⟨text, more, rfl, hclean⟩ := tokensFrom_eq_some s.toList h
  refine ⟨text, more, rfl, ?_⟩
  intro htext
  exact hs (hclean 0 htext).2

/-! ## Statements -/

/-- Where a list is split there is what it starts with, if nothing in that splits it. -/
theorem exists_splitOn_append {α : Type} [DecidableEq α] {a : α} {xs : List α} (h : a ∉ xs) (ys : List α) :
    ∃ first others, (xs ++ ys).splitOn a = (xs ++ first) :: others := by
  induction xs with
  | nil => exact List.exists_cons_of_ne_nil (List.splitOn_ne_nil a ys)
  | cons x xs ih =>
    rw [List.mem_cons, not_or] at h
    obtain ⟨first, others, hsplit⟩ := ih h.2
    refine ⟨first, others, ?_⟩
    rw [List.cons_append, List.splitOn_cons_eq_if_modifyHead, if_neg (by simpa using Ne.symm h.1), hsplit]
    rfl

variable {ts more : List Token} {ss : List Statement}

/-- A statement is read up to its semicolon. -/
theorem readTokens_statement {o : Option Statement} (hts : .mark ';' ∉ ts) (ho : statement? (ts.filter (!·.isBlank)) = some o)
    (more : List Token) : readTokens (ts ++ .mark ';' :: more) = (readTokens more).map (o.toList ++ ·) := by
  have hends : .mark ';' ∉ ts.filter (!·.isBlank) := fun h => hts (List.mem_filter.1 h).1
  have hkept : (.mark ';' :: more : List Token).filter (!·.isBlank) = .mark ';' :: more.filter (!·.isBlank) :=
    List.filter_cons_of_pos (by decide)
  rw [readTokens, List.filter_append, hkept, List.splitOn_append_cons_self_of_not_mem hends, List.mapM_cons, ho, readTokens]
  cases ((more.filter (!·.isBlank)).splitOn (.mark ';')).mapM statement? with
  | none => rfl
  | some all => cases o <;> rfl

/-- The first statement of some tokens starts with the first ones of them. -/
theorem readTokens_starts (ts : List Token) (hts : .mark ';' ∉ ts) (h : readTokens (ts ++ more) = some ss) :
    ∃ further o others, statement? (ts.filter (!·.isBlank) ++ further) = some o ∧ ss = o.toList ++ others := by
  have hends : .mark ';' ∉ ts.filter (!·.isBlank) := fun h => hts (List.mem_filter.1 h).1
  obtain ⟨further, rest, hsplit⟩ := exists_splitOn_append hends (more.filter (!·.isBlank))
  rw [readTokens, List.filter_append, hsplit, List.mapM_cons] at h
  obtain ⟨all, hall, rfl⟩ := Option.map_eq_some_iff.1 h
  obtain ⟨o, ho, hall⟩ := Option.bind_eq_some_iff.1 hall
  obtain ⟨others, -, hall⟩ := Option.bind_eq_some_iff.1 hall
  cases hall
  refine ⟨further, o, others.reduceOption, ho, ?_⟩
  cases o <;> rfl

/-- Reading goes on behind a statement. -/
theorem readFrom_statement {cs : List Char} {o : Option Statement} (hcs : Spells cs ts) (hts : .mark ';' ∉ ts)
    (ho : statement? (ts.filter (!·.isBlank)) = some o) (rest : List Char) :
    readFrom (cs ++ ';' :: rest) = (readFrom rest).map (o.toList ++ ·) := by
  have hmark : tokensFrom .outside (';' :: rest) = (tokensFrom .outside rest).map (.mark ';' :: ·) := by
    rw [tokensFrom, if_neg (by decide)]
  rw [readFrom, readFrom, hcs, hmark]
  cases tokensFrom .outside rest with
  | none => rfl
  | some more => exact readTokens_statement hts ho more

/-- A space before a text is passed over. -/
theorem readFrom_blank {c : Char} (hblank : c.isWhitespace = true) (hquote : c ≠ '"') (rest : List Char) :
    readFrom (c :: rest) = readFrom rest := by
  rw [readFrom, readFrom, tokensFrom, if_neg hquote]
  cases tokensFrom .outside rest with
  | none => rfl
  | some ts =>
    have hskipped : (.mark c :: ts : List Token).filter (!·.isBlank) = ts.filter (!·.isBlank) :=
      List.filter_cons_of_neg (by simp [Token.isBlank, hblank])
    rw [Option.map_some, Option.bind_some, Option.bind_some, readTokens, hskipped, readTokens]

/-! ## Clauses -/

/-- Some characters may stand within a statement: outside of quotes there is no semicolon among them. -/
def IsClause (cs : List Char) : Prop := ∃ ts, Spells cs ts ∧ .mark ';' ∉ ts

theorem IsClause.append {cs cs' : List Char} (h : IsClause cs) (h' : IsClause cs') : IsClause (cs ++ cs') := by
  obtain ⟨ts, hspells, hts⟩ := h
  obtain ⟨ts', hspells', hts'⟩ := h'
  refine ⟨ts ++ ts', hspells.append hspells', ?_⟩
  rw [List.mem_append, not_or]
  exact ⟨hts, hts'⟩

/-- Parts of a statement one after the other are a part of a statement. -/
theorem isClause_flatten {css : List (List Char)} (h : ∀ cs ∈ css, IsClause cs) : IsClause css.flatten := by
  induction css with
  | nil => exact ⟨[], spells_marks List.not_mem_nil, List.not_mem_nil⟩
  | cons cs css ih =>
    rw [List.forall_mem_cons] at h
    rw [List.flatten_cons]
    exact h.1.append (ih h.2)

/-- Characters without quotes and semicolons are a part of a statement. -/
theorem isClause_marks {cs : List Char} (hquote : '"' ∉ cs) (hends : ';' ∉ cs) : IsClause cs :=
  ⟨_, spells_marks hquote, by simpa using hends⟩

/-- A plain text within quotes is a part of a statement. -/
theorem isClause_plain {s : String} (h : IsPlain s) : IsClause (quote s.toList) := ⟨_, spells_plain h, by simp⟩

/-! ## Texts that are not plain -/

/-- The identifier that a statement starts with. -/
def Statement.first : Statement → String
  | .vertex id _ => id
  | .edge source _ _ => source

/-- A statement that starts with a string is about the node or edge of this identifier. -/
theorem exists_of_statement?_string {text : List Char} {more : List Token} {o : Option Statement}
    (h : statement? (.string text :: more) = some o) : ∃ s, o = some s ∧ s.first = String.ofList text := by
  unfold statement? at h
  split at h
  · next heq =>
    cases heq
    obtain ⟨label, -, rfl⟩ := Option.map_eq_some_iff.1 h
    exact ⟨_, rfl, rfl⟩
  · next heq =>
    cases heq
    obtain ⟨label, -, rfl⟩ := Option.map_eq_some_iff.1 h
    exact ⟨_, rfl, rfl⟩
  · next hne => exact absurd rfl (hne text more)

/-- A text is not read as a statement that starts with an identifier that is not plain, though the text does. -/
theorem readFrom_ne_of_first {id : String} {st : Statement} (h : ¬IsPlain id) (hfirst : st.first = id) (rest : List Char)
    (ss : List Statement) : readFrom (quote id.toList ++ rest) ≠ some (st :: ss) := by
  intro hread
  obtain ⟨ts, hts, hread⟩ := Option.bind_eq_some_iff.1 hread
  obtain ⟨text, more, rfl, htext⟩ := string_ne_of_not_plain h hts
  obtain ⟨further, o, others, ho, heq⟩ := readTokens_starts [.string text] (by simp) hread
  obtain ⟨st', rfl, hfirst'⟩ := exists_of_statement?_string ho
  injection heq with hst _
  subst hst
  rw [← hfirst, hfirst', String.toList_ofList] at htext
  exact htext rfl

/-- Nor is it read as an edge that leads to an identifier that is not plain. -/
theorem readFrom_ne_of_target {source target : String} (hsource : IsPlain source) (htarget : ¬IsPlain target) (label : String)
    (rest : List Char) (ss : List Statement) :
    readFrom (quote source.toList ++ (" -> ".toList ++ (quote target.toList ++ rest))) ≠
      some (.edge source target label :: ss) := by
  intro hread
  have harrow : Spells " -> ".toList [.mark ' ', .mark '-', .mark '>', .mark ' '] := spells_marks (by decide)
  rw [readFrom, spells_plain hsource, harrow, Option.map_map] at hread
  obtain ⟨ts, hts, hread⟩ := Option.bind_eq_some_iff.1 hread
  obtain ⟨ts', hts', rfl⟩ := Option.map_eq_some_iff.1 hts
  obtain ⟨text, more, rfl, htext⟩ := string_ne_of_not_plain htarget hts'
  obtain ⟨further, o, others, ho, heq⟩ :=
    readTokens_starts [.string source.toList, .mark ' ', .mark '-', .mark '>', .mark ' ', .string text] (by simp) hread
  obtain ⟨label', -, rfl⟩ := Option.map_eq_some_iff.1 ho
  injection heq with hst _
  injection hst with _ hreached _
  rw [hreached, String.toList_ofList] at htext
  exact htext rfl

end Dot

end RegulatoryTrees
