import RegulatoryTrees.Pattern.Matching
import RegulatoryTrees.Proofs.Outcome

/-!
# What patterns match

Which parts of a text a pattern matches, said without regard to how a match is found (`Matches`), and that the search finds one
exactly where there is one (`occursIn_iff`). This is about patterns without back references, looks around and parts that are
matched for good, whose outcome does not depend on the choices made on the way. A matcher is given how the match goes on, so the
statement about matchers is about all continuations that lead to an end from certain places (`endsFrom_matcher`).
-/

namespace RegulatoryTrees

namespace Place

/-- The place after a part of the text, given what is left of the text. -/
def past (part after : List Char) (p : Place) : Place := ⟨part.reverse ++ p.before, after, p.offset + part.length⟩

theorem past_nil {p : Place} {after : List Char} (h : p.after = after) : p.past [] after = p := by
  subst h
  rfl

/-- A place may be passed in two steps. -/
theorem past_append (p q after : List Char) (s : Place) : s.past (p ++ q) after = (s.past p (q ++ after)).past q after := by
  simp [past, Nat.add_assoc]

theorem next?_eq_none {p : Place} (h : p.after = []) : p.next? = none := by
  rw [next?, h]

/-- The next character is the first one after the place. -/
theorem next?_eq_some {p : Place} {c : Char} {rest : List Char} (h : p.after = c :: rest) :
    p.next? = some (c, p.past [c] rest) := by
  rw [next?, h]
  rfl

end Place

namespace Pattern

/-! ## The parts of a text that a pattern matches -/

/-- A pattern is put together from characters, anchors and groups by sequences, alternatives, runs of single characters and
parts that may be left out. -/
def isSimple : Pattern → Bool
  | .empty | .char _ | .anchor _ => true
  | .sequence first second | .either first second => first.isSimple && second.isSimple
  | .repeated .greedy _ _ (.char _) => true
  | .repeated .greedy 0 (some 1) body => body.isSimple
  | .group _ body => body.isSimple
  | _ => false

/-- What a simple pattern repeats is a single character, or something that may be left out. -/
theorem isSimple_repeated {mode : Repetition} {least : Nat} {most : Option Nat} {body : Pattern}
    (h : (Pattern.repeated mode least most body).isSimple = true) :
    mode = .greedy ∧ ((∃ test, body = .char test) ∨
      (least = 0 ∧ most = some 1 ∧ body.isSimple = true ∧ ∀ test, body ≠ .char test)) := by
  unfold isSimple at h
  split at h <;> simp_all

/-- A pattern matches a part of a text between what stands before it, the nearest character first, and what stands after it. -/
def Matches : Pattern → (before part after : List Char) → Prop
  | .empty, _, part, _ => part = []
  | .char test, _, part, _ => ∃ c, part = [c] ∧ test.holds c = true
  | .sequence first second, before, part, after =>
    ∃ p q, part = p ++ q ∧ first.Matches before p (q ++ after) ∧ second.Matches (p.reverse ++ before) q after
  | .either first second, before, part, after => first.Matches before part after ∨ second.Matches before part after
  | .repeated _ least most (.char test), _, part, _ =>
    least ≤ part.length ∧ (∀ n ∈ most, part.length ≤ n) ∧ ∀ c ∈ part, test.holds c = true
  | .repeated _ 0 (some 1) body, before, part, after => part = [] ∨ body.Matches before part after
  | .group _ body, before, part, after => body.Matches before part after
  | .anchor kind, before, part, after => part = [] ∧ kind.holds ⟨before, after, before.length⟩ = true
  | _, _, _, _ => False

/-- A pattern that may be left out matches nothing or what it matches itself. -/
theorem matches_maybe {body : Pattern} (hbody : ∀ test, body ≠ .char test) {mode : Repetition} {before part after : List Char} :
    Matches (.repeated mode 0 (some 1) body) before part after ↔ part = [] ∨ body.Matches before part after := by
  cases body with
  | char test => exact absurd rfl (hbody test)
  | _ => exact Iff.rfl

/-- From a place a pattern leads to one of certain places. -/
def Leads (p : Pattern) (K : Place → Prop) (s : Place) : Prop :=
  ∃ part after, s.after = part ++ after ∧ p.Matches s.before part after ∧ K (s.past part after)

section Leads

variable {p q : Pattern} {K : Place → Prop} {s : Place}

theorem leads_empty : Leads .empty K s ↔ K s := by
  constructor
  · rintro ⟨_, after, hs, rfl, hk⟩
    rwa [Place.past_nil (show s.after = after from hs)] at hk
  · intro hk
    exact ⟨[], s.after, rfl, rfl, by rwa [Place.past_nil rfl]⟩

/-- A character test leads past the next character if that passes it. -/
theorem leads_char {test : CharTest} :
    Leads (.char test) K s ↔ ∃ c rest, s.after = c :: rest ∧ test.holds c = true ∧ K (s.past [c] rest) := by
  constructor
  · rintro ⟨_, after, hs, ⟨c, rfl, hc⟩, hk⟩
    exact ⟨c, after, hs, hc, hk⟩
  · rintro ⟨c, rest, hs, hc, hk⟩
    exact ⟨[c], rest, hs, ⟨c, rfl, hc⟩, hk⟩

/-- A sequence leads where its second part leads from where its first part leads. -/
theorem leads_sequence : Leads (.sequence p q) K s ↔ p.Leads (q.Leads K) s := by
  constructor
  · rintro ⟨_, after, hs, ⟨a, b, rfl, ha, hb⟩, hk⟩
    rw [List.append_assoc] at hs
    exact ⟨a, b ++ after, hs, ha, b, after, rfl, hb, by rwa [← Place.past_append]⟩
  · rintro ⟨a, rest, hs, ha, b, after, hrest, hb, hk⟩
    obtain rfl : rest = b ++ after := hrest
    exact ⟨a ++ b, after, by rw [hs, List.append_assoc], ⟨a, b, rfl, ha, hb⟩, by rwa [Place.past_append]⟩

theorem leads_either : Leads (.either p q) K s ↔ p.Leads K s ∨ q.Leads K s := by
  constructor
  · rintro ⟨part, after, hs, hp | hq, hk⟩
    · exact .inl ⟨part, after, hs, hp, hk⟩
    · exact .inr ⟨part, after, hs, hq, hk⟩
  · rintro (⟨part, after, hs, hp, hk⟩ | ⟨part, after, hs, hq, hk⟩)
    · exact ⟨part, after, hs, .inl hp, hk⟩
    · exact ⟨part, after, hs, .inr hq, hk⟩

theorem leads_anchor {kind : Anchor} : Leads (.anchor kind) K s ↔ kind.holds s = true ∧ K s := by
  have sees : kind.holds ⟨s.before, s.after, s.before.length⟩ = kind.holds s := by cases kind <;> rfl
  constructor
  · rintro ⟨_, after, hs, ⟨rfl, hkind⟩, hk⟩
    obtain rfl : s.after = after := hs
    exact ⟨sees ▸ hkind, by rwa [Place.past_nil rfl] at hk⟩
  · rintro ⟨hkind, hk⟩
    exact ⟨[], s.after, rfl, ⟨rfl, sees ▸ hkind⟩, by rwa [Place.past_nil rfl]⟩

/-- A pattern that may be left out leads to the place itself or where it leads itself. -/
theorem leads_maybe {body : Pattern} (hbody : ∀ test, body ≠ .char test) {mode : Repetition} :
    Leads (.repeated mode 0 (some 1) body) K s ↔ K s ∨ body.Leads K s := by
  constructor
  · rintro ⟨part, after, hs, hpart, hk⟩
    rcases (matches_maybe hbody).1 hpart with rfl | hpart
    · rw [Place.past_nil (show s.after = after from hs)] at hk
      exact .inl hk
    · exact .inr ⟨part, after, hs, hpart, hk⟩
  · rintro (hk | ⟨part, after, hs, hpart, hk⟩)
    · exact ⟨[], s.after, rfl, (matches_maybe hbody).2 (.inl rfl), by rwa [Place.past_nil rfl]⟩
    · exact ⟨part, after, hs, (matches_maybe hbody).2 (.inr hpart), hk⟩

theorem leads_group {index : Nat} : Leads (.group index p) K s ↔ p.Leads K s := Iff.rfl

end Leads

/-! ## Patterns in a row and alternatives -/

/-- Patterns match the parts of a text one after the other. -/
def MatchInRow : List Pattern → (before part after : List Char) → Prop
  | [], _, part, _ => part = []
  | p :: rest, before, part, after =>
    ∃ a b, part = a ++ b ∧ p.Matches before a (b ++ after) ∧ MatchInRow rest (a.reverse ++ before) b after

section Rows

variable {ps qs : List Pattern} {before part after : List Char}

/-- A sequence of patterns matches what they match in a row. -/
theorem matches_ofSequence : (ofSequence ps).Matches before part after ↔ MatchInRow ps before part after := by
  induction ps generalizing before part with
  | nil => exact Iff.rfl
  | cons p rest ih =>
    cases rest with
    | nil => simp [ofSequence, MatchInRow]
    | cons q rest =>
      rw [ofSequence, Matches, MatchInRow]
      · simp only [ih]
      · simp

/-- Two rows of patterns match two parts of a text one after the other. -/
theorem matchInRow_append : MatchInRow (ps ++ qs) before part after ↔
    ∃ a b, part = a ++ b ∧ MatchInRow ps before a (b ++ after) ∧ MatchInRow qs (a.reverse ++ before) b after := by
  induction ps generalizing before part with
  | nil =>
    constructor
    · exact fun h => ⟨[], part, rfl, rfl, h⟩
    · rintro ⟨_, _, rfl, rfl, h⟩
      exact h
  | cons p rest ih =>
    simp only [List.cons_append, MatchInRow, ih]
    constructor
    · rintro ⟨a, _, rfl, ha, b, c, rfl, hb, hc⟩
      exact ⟨a ++ b, c, by simp, ⟨a, b, rfl, by simpa using ha, hb⟩, by simpa using hc⟩
    · rintro ⟨_, c, rfl, ⟨a, b, rfl, ha, hb⟩, hc⟩
      exact ⟨a, b ++ c, by simp, by simpa using ha, b, c, rfl, hb, by simpa using hc⟩

/-- Alternatives match what any of them matches. -/
theorem matches_ofAlternatives (hps : ps ≠ []) :
    (ofAlternatives ps).Matches before part after ↔ ∃ p ∈ ps, p.Matches before part after := by
  induction ps with
  | nil => exact absurd rfl hps
  | cons p rest ih =>
    cases rest with
    | nil => simp [ofAlternatives]
    | cons q rest =>
      rw [ofAlternatives, Matches, ih (List.cons_ne_nil q rest)]
      · simp
      · simp

end Rows

/-! ## Patterns without anchors -/

/-- An anchor stands somewhere in a pattern. -/
def isAnchored : Pattern → Bool
  | .anchor _ => true
  | .sequence first second | .either first second => first.isAnchored || second.isAnchored
  | .repeated _ _ _ body | .group _ body => body.isAnchored
  | _ => false

/-- A pattern takes at least one character wherever it matches. -/
def isTaking : Pattern → Bool
  | .char _ => true
  | .sequence first second => first.isTaking || second.isTaking
  | .either first second => first.isTaking && second.isTaking
  | .group _ body => body.isTaking
  | _ => false

/-- Without anchors it does not matter what stands around the part that a pattern matches. -/
theorem matches_congr {p : Pattern} (hp : p.isSimple = true) (hanchor : p.isAnchored = false)
    {before before' part after after' : List Char} : p.Matches before part after ↔ p.Matches before' part after' := by
  induction p generalizing before before' part after after' with
  | empty | char => exact Iff.rfl
  | sequence first second ihf ihs =>
    rw [isSimple, Bool.and_eq_true] at hp
    rw [isAnchored, Bool.or_eq_false_iff] at hanchor
    have first_congr {a b : List Char} : first.Matches before a (b ++ after) ↔ first.Matches before' a (b ++ after') :=
      ihf hp.1 hanchor.1
    have second_congr {a b : List Char} :
        second.Matches (a.reverse ++ before) b after ↔ second.Matches (a.reverse ++ before') b after' :=
      ihs hp.2 hanchor.2
    simp only [Matches, first_congr, second_congr]
  | either first second ihf ihs =>
    rw [isSimple, Bool.and_eq_true] at hp
    rw [isAnchored, Bool.or_eq_false_iff] at hanchor
    exact or_congr (ihf hp.1 hanchor.1) (ihs hp.2 hanchor.2)
  | repeated mode least most body ih =>
    obtain ⟨rfl, ⟨test, rfl⟩ | ⟨rfl, rfl, hbody, hchar⟩⟩ := isSimple_repeated hp
    · exact Iff.rfl
    · rw [matches_maybe hchar, matches_maybe hchar, ih hbody hanchor]
  | group index body ih => exact ih hp hanchor
  | anchor kind => cases hanchor
  | sameAs | ifGroup | ahead | behind | atomic => cases hp

/-- A pattern that takes characters matches no empty text. -/
theorem ne_nil_of_isTaking {p : Pattern} (hp : p.isTaking = true) {before part after : List Char}
    (h : p.Matches before part after) : part ≠ [] := by
  induction p generalizing before part after with
  | char test =>
    obtain ⟨c, rfl, -⟩ := h
    exact List.cons_ne_nil c []
  | sequence first second ihf ihs =>
    rw [isTaking, Bool.or_eq_true] at hp
    obtain ⟨a, b, rfl, ha, hb⟩ := h
    rcases hp with hp | hp
    · exact List.append_ne_nil_of_left_ne_nil (ihf hp ha) b
    · exact List.append_ne_nil_of_right_ne_nil a (ihs hp hb)
  | either first second ihf ihs =>
    rw [isTaking, Bool.and_eq_true] at hp
    exact h.elim (ihf hp.1) (ihs hp.2)
  | group index body ih => exact ih hp h
  | _ => cases hp

/-! ## What a match begins with -/

/-- A pattern that takes nothing and asks for nothing matches nothing else. -/
theorem eq_nil_of_isVoid {p : Pattern} (hp : p.isVoid = true) {before part after : List Char}
    (h : p.Matches before part after) : part = [] := by
  induction p generalizing before part after with
  | empty => exact h
  | sequence first second ihf ihs =>
    rw [isVoid, Bool.and_eq_true] at hp
    obtain ⟨a, b, rfl, ha, hb⟩ := h
    rw [ihf hp.1 ha, ihs hp.2 hb, List.append_nil]
  | _ => exact absurd hp Bool.false_ne_true

/-- A match begins with a character that passes the opening test, if there is one. -/
theorem exists_of_opening? {p : Pattern} {test : CharTest} (hp : p.opening? = some test) {before part after : List Char}
    (h : p.Matches before part after) : ∃ c rest, part = c :: rest ∧ test.holds c = true := by
  induction p generalizing before part after with
  | char _ =>
    obtain rfl := Option.some.inj hp
    obtain ⟨c, rfl, hc⟩ := h
    exact ⟨c, [], rfl, hc⟩
  | sequence first second ihf ihs =>
    obtain ⟨a, b, rfl, ha, hb⟩ := h
    rw [opening?] at hp
    split at hp
    · next hvoid =>
      rw [eq_nil_of_isVoid hvoid ha]
      exact ihs hp hb
    · obtain ⟨c, rest, rfl, hc⟩ := ihf hp ha
      exact ⟨c, rest ++ b, rfl, hc⟩
  | _ => cases hp

/-- A test that is ruled out at a place fails for the character there. -/
theorem not_holds_of_rulesOut {test : CharTest} {s : Place} (h : test.rulesOut s = true) {c : Char} {rest : List Char}
    (hs : s.after = c :: rest) : test.holds c = false := by
  unfold CharTest.rulesOut at h
  split at h
  · cases h
  · simpa [hs] using h
  · cases h

/-- A pattern that is not tried at a place does not match there. -/
theorem not_leads_of_not_isTried {p : Pattern} {K : Place → Prop} {s : Place} (h : p.isTried s = false) : ¬p.Leads K s := by
  have ruled_out {q : Pattern} (hq : q.opening?.all (!·.rulesOut s) = false) : ¬q.Leads K s := by
    rintro ⟨part, after, hs, hmatches, -⟩
    cases hopening : q.opening? with
    | none =>
      rw [hopening] at hq
      cases hq
    | some test =>
      obtain ⟨c, rest, rfl, hc⟩ := exists_of_opening? hopening hmatches
      rw [hopening, Option.all_some, Bool.not_eq_false'] at hq
      rw [not_holds_of_rulesOut hq hs] at hc
      cases hc
  induction p with
  | either first second ihf ihs =>
    rw [isTried, Bool.or_eq_false_iff] at h
    rw [leads_either, not_or]
    exact ⟨ihf h.1, ihs h.2⟩
  | _ => exact ruled_out h

/-! ## Continuations and matchers -/

/-- A continuation leads to an end exactly from certain places, whatever came before. -/
def EndsFrom (k : Continuation) (K : Place → Prop) : Prop := ∀ s, (∃ t, k s = .ok t) ↔ K s.place

/-- The character that surroundings tell to come next does come next where a match goes on. -/
def Announced (around : Surroundings) (K : Place → Prop) : Prop := ∀ code ∈ around.next, ∀ s, K s → s.begins code = true

section Matchers

variable {k first second : Continuation} {K A B : Place → Prop} {around : Surroundings}

/-- Where nothing is told about the next character, nothing can be wrong about it. -/
theorem announced_none {inRounds : Bool} : Announced ⟨inRounds, none⟩ K := fun _ h => nomatch h

/-- What is told before a pattern comes next where the pattern goes on. -/
theorem announced_inFront (q : Pattern) (h : Announced around K) : Announced (q.inFront around) (q.Leads K) := by
  rintro code hcode s ⟨part, after, hs, hq, hk⟩
  dsimp only [inFront] at hcode
  split at hcode
  · next hvoid =>
    obtain rfl := eq_nil_of_isVoid hvoid hq
    rw [Place.past_nil (show s.after = after from hs)] at hk
    exact h code hcode s hk
  · obtain ⟨test, htest, honly⟩ := Option.bind_eq_some_iff.1 hcode
    obtain ⟨c, rest, rfl, hc⟩ := exists_of_opening? htest hq
    unfold CharTest.only? at honly
    split at honly
    · obtain rfl := Option.some.inj honly
      simpa [Place.begins, hs, CharTest.holds, SetItem.holds, CaseFold.lower] using hc
    · cases honly

/-- An attempt and another one lead to an end from where either does. -/
theorem endsFrom_orElse (inRounds : Bool) (hfirst : EndsFrom first A) (hsecond : EndsFrom second B) :
    EndsFrom (Matcher.orElse inRounds first second) fun s => A s ∨ B s := by
  intro s
  dsimp only
  rw [← hfirst s]
  cases h : first s with
  | ok t => simp [Matcher.orElse, h]
  | error failed =>
    have retried := hsecond (s.retry inRounds failed)
    rw [show (s.retry inRounds failed).place = s.place from rfl] at retried
    rw [← retried, Matcher.orElse, h]
    cases hs : second (s.retry inRounds failed) <;> simp [hs]

/-- The first of some places from which the match goes on to an end is found. A place before another character than the one to
come next does not go on to an end. -/
theorem firstOf_ok_iff (hk : EndsFrom k K) (h : Announced around K) (places : List Place) (s : Progress) :
    (∃ t, Matcher.firstOf around k places s = .ok t) ↔ ∃ p ∈ places, K p := by
  induction places generalizing s with
  | nil => simp [Matcher.firstOf]
  | cons p others ih =>
    simp only [List.mem_cons, exists_eq_or_imp]
    rw [Matcher.firstOf]
    by_cases hbegins : around.next.all p.begins = true
    · have here := hk { s with place := p, choice := p }
      rw [if_pos hbegins]
      cases hp : k { s with place := p, choice := p } with
      | ok t =>
        rw [hp] at here
        simp [here.1 ⟨t, rfl⟩]
      | error failed =>
        have hnot : ¬K p := fun hK => by simpa [hp] using here.2 hK
        rw [ih, or_iff_right hnot]
    · have hnot : ¬K p := fun hK => hbegins ((Option.all_eq_true ..).2 fun code hcode => h code hcode p hK)
      rw [if_neg hbegins, ih, or_iff_right hnot]

end Matchers

/-! ## Runs of characters -/

/-- The places from a place on, up to a number of characters that pass a test. -/
def stretch (test : CharTest) : (limit : Nat) → Place → List Place
  | 0, p => [p]
  | n + 1, p =>
    p :: match p.next? with
      | some (c, further) => if test.holds c then stretch test n further else []
      | none => []

/-- Reaching out collects the places of a stretch, the furthest first. -/
theorem reach_eq (test : CharTest) (limit : Nat) (p : Place) (nearer : List Place) :
    Matcher.reach test limit p nearer = (stretch test limit p).reverse ++ nearer := by
  induction limit generalizing p nearer with
  | zero => rfl
  | succ n ih =>
    rw [Matcher.reach, stretch]
    cases p.next? with
    | none => rfl
    | some next =>
      cases hc : test.holds next.1 <;> simp [hc, ih]

/-- A place lies behind so many characters that pass a test. -/
def IsAlong (test : CharTest) (least most : Nat) (p q : Place) : Prop :=
  ∃ part after, p.after = part ++ after ∧ least ≤ part.length ∧ part.length ≤ most ∧ (∀ c ∈ part, test.holds c = true) ∧
    q = p.past part after

section Along

variable {test : CharTest} {least most : Nat} {p q : Place}

/-- No place is further along than the most. -/
theorem not_isAlong_of_lt (h : most < least) : ¬IsAlong test least most p q := by
  rintro ⟨part, after, -, hleast, hmost, -, -⟩
  omega

/-- A place is the same or lies behind one character or more. -/
theorem isAlong_zero_iff : IsAlong test 0 most p q ↔ q = p ∨ IsAlong test 1 most p q := by
  constructor
  · rintro ⟨part, after, hpart, -, hmost, hall, rfl⟩
    cases part with
    | nil => exact .inl (Place.past_nil hpart)
    | cons c part => exact .inr ⟨c :: part, after, hpart, Nat.succ_le_succ (Nat.zero_le _), hmost, hall, rfl⟩
  · rintro (rfl | ⟨part, after, hpart, -, hmost, hall, rfl⟩)
    · exact ⟨[], q.after, rfl, Nat.zero_le _, Nat.zero_le _, fun _ hc => absurd hc List.not_mem_nil, (Place.past_nil rfl).symm⟩
    · exact ⟨part, after, hpart, Nat.zero_le _, hmost, hall, rfl⟩

/-- A place behind one character or more lies along from the place behind the first of them. -/
theorem isAlong_succ_iff : IsAlong test (least + 1) (most + 1) p q ↔
    ∃ c rest, p.after = c :: rest ∧ test.holds c = true ∧ IsAlong test least most (p.past [c] rest) q := by
  constructor
  · rintro ⟨part, after, hpart, hleast, hmost, hall, rfl⟩
    cases part with
    | nil => cases hleast
    | cons c part =>
      obtain ⟨hc, hall⟩ := List.forall_mem_cons.1 hall
      exact ⟨c, part ++ after, hpart, hc, part, after, rfl, Nat.le_of_succ_le_succ hleast, Nat.le_of_succ_le_succ hmost, hall,
        Place.past_append [c] part after p⟩
  · rintro ⟨c, rest, hp, hc, part, after, hrest, hleast, hmost, hall, rfl⟩
    obtain rfl : rest = part ++ after := hrest
    exact ⟨c :: part, after, hp, Nat.succ_le_succ hleast, Nat.succ_le_succ hmost, List.forall_mem_cons.2 ⟨hc, hall⟩,
      (Place.past_append [c] part after p).symm⟩

end Along

/-- The places of a stretch, less some at its beginning, lie along behind so many characters. -/
theorem mem_drop_stretch {test : CharTest} {most least : Nat} {p q : Place} :
    q ∈ (stretch test most p).drop least ↔ IsAlong test least most p q := by
  induction most generalizing p least with
  | zero =>
    cases least with
    | zero =>
      rw [isAlong_zero_iff, or_iff_left (not_isAlong_of_lt Nat.zero_lt_one)]
      simp [stretch]
    | succ least => simp [stretch, not_isAlong_of_lt (Nat.succ_pos least)]
  | succ most ih =>
    have further (least : Nat) : q ∈ (stretch test (most + 1) p).drop (least + 1) ↔ IsAlong test (least + 1) (most + 1) p q := by
      rw [stretch, List.drop_succ_cons, isAlong_succ_iff]
      cases hp : p.after with
      | nil => simp [Place.next?_eq_none hp]
      | cons c rest =>
        rw [Place.next?_eq_some hp]
        cases hc : test.holds c <;> simp [hc, ih, and_assoc]
    cases least with
    | succ least => exact further least
    | zero =>
      rw [isAlong_zero_iff, ← further, stretch, List.drop_zero, List.mem_cons, List.drop_succ_cons, List.drop_zero]

/-- The places where a run of characters can end, the nearest first. -/
def runEnds (test : CharTest) (least : Nat) (most : Option Nat) (p : Place) : List Place :=
  (stretch test (most.getD p.after.length) p).drop least

/-- A run can end behind the parts that it matches. -/
theorem mem_runEnds {test : CharTest} {least : Nat} {most : Option Nat} {p q : Place} :
    q ∈ runEnds test least most p ↔ ∃ part after, p.after = part ++ after ∧
      Matches (.repeated .greedy least most (.char test)) p.before part after ∧ q = p.past part after := by
  rw [runEnds, mem_drop_stretch]
  constructor
  · rintro ⟨part, after, hp, hleast, hlength, hall, rfl⟩
    refine ⟨part, after, hp, ⟨hleast, ?_, hall⟩, rfl⟩
    rintro n rfl
    exact hlength
  · rintro ⟨part, after, hp, ⟨hleast, hmost, hall⟩, rfl⟩
    refine ⟨part, after, hp, hleast, ?_, hall, rfl⟩
    cases most with
    | none => simp [hp]
    | some n => exact hmost n rfl

/-- A run goes on from the places where it can end, the farthest first; it is not tried where too few characters are left. -/
theorem run_eq {k : Continuation} {around : Surroundings} (least : Nat) (most : Option Nat) (test : CharTest) (s : Progress) :
    Matcher.run .greedy least most test around k s =
      if s.place.after.length < least then .error s
      else Matcher.firstOf around k (runEnds test least most s.place).reverse s.choosing := by
  have too_short : (0 < least && (s.place.after.drop (least - 1)).isEmpty) = true ↔ s.place.after.length < least := by
    simp only [Bool.and_eq_true, decide_eq_true_iff, List.isEmpty_iff, List.drop_eq_nil_iff]
    omega
  have places : ((Matcher.reach test (most.getD s.place.after.length) s.place []).take
      ((Matcher.reach test (most.getD s.place.after.length) s.place []).length - least)) =
      (runEnds test least most s.place).reverse := by
    rw [reach_eq, List.append_nil, List.length_reverse, ← List.reverse_drop, runEnds]
  simp only [Matcher.run, too_short]
  dsimp only [Progress.choosing]
  rw [places]

/-- A run of characters leads to an end from where one of its lengths does. -/
theorem endsFrom_run {k : Continuation} {K : Place → Prop} {around : Surroundings} (hk : EndsFrom k K)
    (h : Announced around K) (least : Nat) (most : Option Nat) (test : CharTest) :
    EndsFrom (Matcher.run .greedy least most test around k) (Leads (.repeated .greedy least most (.char test)) K) := by
  intro s
  rw [run_eq]
  split
  · next hshort =>
    simp only [reduceCtorEq, exists_false, false_iff]
    rintro ⟨part, after, hs, ⟨hleast, -, -⟩, -⟩
    rw [hs, List.length_append] at hshort
    omega
  · rw [firstOf_ok_iff hk h]
    simp only [List.mem_reverse, mem_runEnds]
    constructor
    · rintro ⟨_, ⟨part, after, hs, hpart, rfl⟩, hK⟩
      exact ⟨part, after, hs, hpart, hK⟩
    · rintro ⟨part, after, hs, hpart, hK⟩
      exact ⟨_, ⟨part, after, hs, hpart, rfl⟩, hK⟩

/-! ## Parts that may be left out -/

/-- Going on from here leads to an end if the continuation does where a choice begins. -/
theorem fromHere_ok_iff {k : Continuation} {s : Progress} :
    (∃ t, Matcher.fromHere k s = .ok t) ↔ ∃ t, k s.choosing = .ok t := by
  rw [Matcher.fromHere]
  cases k s.choosing <;> simp

/-- A part that may be left out leads to an end with it or without it. There is a second round only in name: it ends at once. -/
theorem endsFrom_maybe {body : Matcher} {k : Continuation} {K B : Place → Prop} (hk : EndsFrom k K)
    (hbody : ∀ k', EndsFrom k' K → EndsFrom (body k') B) (inRounds : Bool) :
    EndsFrom (Matcher.rounds .greedy 0 (some 1) body inRounds k) fun s => K s ∨ B s := by
  intro s
  have ended (fuel : Nat) (last : Option Nat) : EndsFrom (Matcher.greedy body 0 (some 1) k fuel 1 last) K := by
    intro s
    cases fuel with
    | zero => exact hk s
    | succ fuel =>
      rw [Matcher.greedy, fromHere_ok_iff]
      exact hk s.choosing
  have fuel : Matcher.roundsFrom 0 s = s.place.after.length + 1 + 1 := by
    rw [Matcher.roundsFrom, Nat.zero_add]
  have once := hbody _ (ended (s.place.after.length + 1) (some s.choosing.place.offset)) s.choosing
  rw [Matcher.rounds, fuel, Matcher.greedy, fromHere_ok_iff]
  cases hb : body (Matcher.greedy body 0 (some 1) k (s.place.after.length + 1) 1 (some s.choosing.place.offset)) s.choosing with
  | ok t =>
    have hB : B s.place := once.1 ⟨t, hb⟩
    simp [Matcher.allowsMore, hB]
  | error failed =>
    have hnot : ¬B s.place := fun hB => by simpa [hb] using once.2 hB
    show (∃ t, k s.choosing = .ok t) ↔ K s.place ∨ B s.place
    rw [or_iff_left hnot]
    exact hk s.choosing

/-! ## Matchers -/

/-- A character leads to an end if it passes the test and the match goes on behind it. -/
theorem endsFrom_char {k : Continuation} {K : Place → Prop} (hk : EndsFrom k K) (around : Surroundings) (test : CharTest) :
    EndsFrom ((Pattern.char test).matcher around k) (Leads (.char test) K) := by
  intro s
  rw [leads_char, matcher]
  cases hs : s.place.after with
  | nil => simp [Place.next?_eq_none hs]
  | cons c rest =>
    have onward := hk { s with place := s.place.past [c] rest }
    simp only [Place.next?_eq_some hs]
    cases hc : test.holds c with
    | true =>
      rw [if_pos rfl, onward]
      constructor
      · intro hK
        exact ⟨c, rest, rfl, hc, hK⟩
      · rintro ⟨_, _, heq, -, hK⟩
        obtain ⟨rfl, rfl⟩ := List.cons.inj heq
        exact hK
    | false =>
      simp only [Bool.false_eq_true, if_false, reduceCtorEq, exists_false, false_iff]
      rintro ⟨_, _, heq, hd, -⟩
      obtain ⟨rfl, rfl⟩ := List.cons.inj heq
      rw [hc] at hd
      cases hd

/-- An alternative may be tried only where it can match: elsewhere it would not lead to an end. -/
theorem endsFrom_tried {p : Pattern} {around : Surroundings} {k : Continuation} {K : Place → Prop}
    (h : EndsFrom (p.matcher around k) (p.Leads K)) :
    EndsFrom (fun s => if p.isTried s.place then p.matcher around k s.choosing else .error s) (p.Leads K) := by
  intro s
  cases htried : p.isTried s.place with
  | true =>
    simp only [htried, if_true]
    exact h s.choosing
  | false => simp [htried, not_leads_of_not_isTried htried]

/-- A matcher leads to an end exactly from where its pattern leads to where the match goes on to one. -/
theorem endsFrom_matcher (p : Pattern) (hp : p.isSimple = true) : ∀ {around : Surroundings} {k : Continuation}
    {K : Place → Prop}, EndsFrom k K → Announced around K → EndsFrom (p.matcher around k) (p.Leads K) := by
  induction p with
  | empty =>
    intro around k K hk _ s
    rw [leads_empty]
    exact hk s
  | char test =>
    intro around k K hk _
    exact endsFrom_char hk around test
  | sequence first second ihf ihs =>
    rw [isSimple, Bool.and_eq_true] at hp
    intro around k K hk h s
    rw [leads_sequence]
    exact ihf hp.1 (ihs hp.2 hk h) (announced_inFront second h) s
  | either first second ihf ihs =>
    rw [isSimple, Bool.and_eq_true] at hp
    intro around k K hk h s
    rw [leads_either]
    exact endsFrom_orElse around.inRounds (endsFrom_tried (ihf hp.1 hk announced_none))
      (endsFrom_tried (ihs hp.2 hk announced_none)) s
  | repeated mode least most body ih =>
    intro around k K hk h
    obtain ⟨rfl, ⟨test, rfl⟩ | ⟨rfl, rfl, hbody, hchar⟩⟩ := isSimple_repeated hp
    · exact endsFrom_run hk h least most test
    · have rounds : matcher (.repeated .greedy 0 (some 1) body) around =
          Matcher.rounds .greedy 0 (some 1) (body.matcher ⟨around.inRounds || Repetition.greedy != .possessive, none⟩)
            around.inRounds := by
        cases body with
        | char test => exact absurd rfl (hchar test)
        | _ => rfl
      intro s
      rw [leads_maybe hchar, rounds]
      exact endsFrom_maybe hk (fun k' hk' => ih hbody hk' announced_none) around.inRounds s
  | group index body ih =>
    intro around k K hk _ s
    rw [leads_group]
    have closing : EndsFrom (fun t => k (t.closeGroup index)) K := fun t => hk (t.closeGroup index)
    exact ih hp closing announced_none (s.openGroup index)
  | anchor kind =>
    intro around k K hk _ s
    rw [leads_anchor, ← hk s, matcher]
    cases h : kind.holds s.place <;> simp [h]
  | sameAs | ifGroup | ahead | behind | atomic => cases hp

/-! ## Searches -/

section Search

variable {p : Pattern}

/-- A pattern matches at a place if it matches a part of the text from there. -/
theorem matchAt_isSome_iff (hp : p.isSimple = true) (s : Place) :
    (p.matchAt s).isSome = true ↔ ∃ part after, s.after = part ++ after ∧ p.Matches s.before part after := by
  have accepted : EndsFrom .ok fun _ => True := fun s => by simp
  have h : (∃ t, p.matcher ⟨false, none⟩ .ok (.start s) = .ok t) ↔
      ∃ part after, s.after = part ++ after ∧ p.Matches s.before part after := by
    have ends := endsFrom_matcher p hp accepted (announced_none : Announced ⟨false, none⟩ _) (.start s)
    simp only [Leads, and_true] at ends
    exact ends
  rw [matchAt, ← h]
  cases p.matcher ⟨false, none⟩ .ok (.start s) <;> simp [Except.toOption]

/-- A search finds the first place from which the pattern matches, if there is one. -/
theorem searchFrom_isSome_iff (before : List Char) (offset : Nat) (text : List Char) :
    (p.searchFrom before offset text).isSome = true ↔
      ∃ skipped rest, text = skipped ++ rest ∧ (p.matchAt ((Place.mk before text offset).past skipped rest)).isSome = true := by
  induction text generalizing before offset with
  | nil =>
    simp only [searchFrom, Option.isSome_map]
    constructor
    · intro h
      exact ⟨[], [], rfl, h⟩
    · rintro ⟨skipped, rest, h, hmatch⟩
      obtain ⟨rfl, rfl⟩ := List.append_eq_nil_iff.1 h.symm
      exact hmatch
  | cons c text ih =>
    rw [searchFrom]
    cases hmatch : p.matchAt ⟨before, c :: text, offset⟩ with
    | some done =>
      simp only [Option.isSome_some, true_iff]
      exact ⟨[], c :: text, rfl, by simp [Place.past, hmatch]⟩
    | none =>
      simp only [ih]
      constructor
      · rintro ⟨skipped, rest, rfl, h⟩
        refine ⟨c :: skipped, rest, rfl, ?_⟩
        have same := Place.past_append [c] skipped rest ⟨before, c :: (skipped ++ rest), offset⟩
        rw [List.singleton_append] at same
        rwa [same]
      · rintro ⟨skipped, rest, h, hrest⟩
        cases skipped with
        | nil =>
          obtain rfl : c :: text = rest := h
          simp [Place.past, hmatch] at hrest
        | cons d skipped =>
          obtain rfl : c = d := (List.cons.inj h).1
          obtain rfl : text = skipped ++ rest := (List.cons.inj h).2
          refine ⟨skipped, rest, rfl, ?_⟩
          have same := Place.past_append [c] skipped rest ⟨before, c :: (skipped ++ rest), offset⟩
          rw [List.singleton_append] at same
          rwa [same] at hrest

/-- A pattern occurs in a text exactly if it matches a part of it, between what stands before and after. -/
theorem occursIn_iff (hp : p.isSimple = true) (text : String) :
    p.occursIn text = true ↔
      ∃ before part after, text.toList = before ++ part ++ after ∧ p.Matches before.reverse part after := by
  rw [occursIn, search, searchFrom_isSome_iff]
  simp only [matchAt_isSome_iff hp, Place.past, List.append_nil]
  constructor
  · rintro ⟨before, _, htext, part, after, rfl, h⟩
    exact ⟨before, part, after, by rw [htext, List.append_assoc], h⟩
  · rintro ⟨before, part, after, htext, h⟩
    exact ⟨before, part ++ after, by rw [htext, List.append_assoc], part, after, rfl, h⟩

/-- A pattern without anchors occurs in a text exactly if it matches a part of it. -/
theorem occursIn_iff_infix (hp : p.isSimple = true) (hanchor : p.isAnchored = false) (text : String) :
    p.occursIn text = true ↔ ∃ part, part <:+: text.toList ∧ p.Matches [] part [] := by
  rw [occursIn_iff hp]
  constructor
  · rintro ⟨before, part, after, htext, h⟩
    exact ⟨part, ⟨before, after, htext.symm⟩, (matches_congr hp hanchor).1 h⟩
  · rintro ⟨part, ⟨before, after, htext⟩, h⟩
    exact ⟨before, part, after, htext.symm, (matches_congr hp hanchor).2 h⟩

end Search

end Pattern

end RegulatoryTrees
