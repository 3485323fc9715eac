import RegulatoryTrees.Proofs.Pattern.Language

/-!
# What a match tells

Where a match begins and ends, and what its group holds. A linear pattern, one of characters, anchors and runs in a row, leaves
the marks of groups alone, also where an attempt fails (`sound_matcher`); so a group in front of one holds the part of the text
that its body matches (`matchAt_captures`). A search gives the leftmost match (`searchFrom_eq_some`).
-/

namespace RegulatoryTrees

namespace Pattern

/-! ## Linear patterns -/

/-- A pattern is put together from characters, anchors and runs of single characters, one after the other. -/
def isLinear : Pattern → Bool
  | .empty | .char _ | .anchor _ => true
  | .sequence first second => first.isLinear && second.isLinear
  | .repeated .greedy _ _ (.char _) => true
  | _ => false

/-- What a linear pattern repeats is a single character. -/
theorem isLinear_repeated {mode : Repetition} {least : Nat} {most : Option Nat} {body : Pattern}
    (h : (Pattern.repeated mode least most body).isLinear = true) : mode = .greedy ∧ ∃ test, body = .char test := by
  unfold isLinear at h
  split at h <;> simp_all

/-- A match passes a part of the text that a pattern matches, and no mark is set. -/
structure Passes (p : Pattern) (s t : Progress) : Prop where
  marks : t.marks = s.marks
  place : ∃ part after, s.place.after = part ++ after ∧ p.Matches s.place.before part after ∧ t.place = s.place.past part after

/-- Where a continuation fails from certain marks on, it leaves them as they are, and perhaps others after them. -/
def Keeps (marks : List (Option Nat)) (k : Continuation) : Prop :=
  ∀ s failed, s.marks = marks → k s = .error failed → marks <+: failed.marks

/-- A matcher keeps the marks, and where it leads to an end it does so by going on from behind what its pattern matches. -/
structure Sound (p : Pattern) (marks : List (Option Nat)) (k matched : Continuation) : Prop where
  keeps : Keeps marks matched
  passes : ∀ s t, s.marks = marks → matched s = .ok t → ∃ s', p.Passes s s' ∧ k s' = .ok t

variable {p first second body : Pattern} {marks : List (Option Nat)} {k : Continuation} {around : Surroundings} {s t : Progress}

theorem keeps_ok : Keeps marks .ok := fun _ _ _ h => nomatch h

/-- A retry from where an attempt began finds the marks that the attempt kept. -/
theorem marks_retry {failed : Progress} (inRounds : Bool) (h : s.marks <+: failed.marks) :
    (s.retry inRounds failed).marks = s.marks := by
  cases inRounds with
  | true => rfl
  | false => exact (List.prefix_iff_eq_take.1 h).symm

theorem Passes.refl (s : Progress) : Passes .empty s s :=
  ⟨rfl, [], s.place.after, rfl, rfl, (Place.past_nil rfl).symm⟩

theorem Passes.trans {u : Progress} (hfirst : first.Passes s t) (hsecond : second.Passes t u) :
    (Pattern.sequence first second).Passes s u := by
  obtain ⟨hmarks, a, rest, hs, ha, ht⟩ := hfirst
  obtain ⟨hmarks', b, after, hrest, hb, hu⟩ := hsecond
  rw [ht] at hrest hb hu
  obtain rfl : rest = b ++ after := hrest
  exact ⟨hmarks'.trans hmarks, a ++ b, after, by rw [hs, List.append_assoc], ⟨a, b, rfl, ha, hb⟩,
    by rw [hu, Place.past_append]⟩

/-! ## Matchers -/

/-- A character test is sound before any continuation that keeps the marks. -/
theorem sound_char (hk : Keeps marks k) (test : CharTest) :
    Sound (.char test) marks k ((Pattern.char test).matcher around k) := by
  constructor
  · rintro s failed rfl h
    simp only [matcher] at h
    split at h
    · split at h
      · refine hk _ failed ?_ h
        rfl
      · cases h
        exact List.prefix_refl _
    · cases h
      exact List.prefix_refl _
  · rintro s t rfl h
    simp only [matcher] at h
    cases hs : s.place.after with
    | nil =>
      simp [Place.next?_eq_none hs] at h
    | cons c rest =>
      simp only [Place.next?_eq_some hs] at h
      split at h
      · next hc =>
        refine ⟨_, ?_, h⟩
        exact ⟨rfl, [c], rest, hs, ⟨c, rfl, hc⟩, rfl⟩
      · cases h

theorem sound_anchor (hk : Keeps marks k) (kind : Anchor) :
    Sound (.anchor kind) marks k ((Pattern.anchor kind).matcher around k) := by
  have sees (s : Place) : kind.holds ⟨s.before, s.after, s.before.length⟩ = kind.holds s := by cases kind <;> rfl
  constructor
  · rintro s failed rfl h
    simp only [matcher] at h
    split at h
    · exact hk s failed rfl h
    · cases h
      exact List.prefix_refl _
  · rintro s t rfl h
    simp only [matcher] at h
    split at h
    · next hkind =>
      exact ⟨s, ⟨rfl, [], s.place.after, rfl, ⟨rfl, (sees s.place).trans hkind⟩, (Place.past_nil rfl).symm⟩, h⟩
    · cases h

/-- The first place that leads to an end is one of those tried, and it is tried with the marks that there were. -/
theorem sound_firstOf (hk : Keeps marks k) (places : List Place) : ∀ s, s.marks = marks →
    (∀ failed, Matcher.firstOf around k places s = .error failed → marks <+: failed.marks) ∧
      ∀ t, Matcher.firstOf around k places s = .ok t → ∃ q ∈ places, ∃ s', s'.place = q ∧ s'.marks = marks ∧ k s' = .ok t := by
  induction places with
  | nil =>
    rintro s rfl
    constructor
    · rintro _ ⟨⟩
      exact List.prefix_refl _
    · rintro t ⟨⟩
  | cons q others ih =>
    rintro s rfl
    have further {s' : Progress} (hs' : s'.marks = s.marks) :
        (∀ failed, Matcher.firstOf around k others s' = .error failed → s.marks <+: failed.marks) ∧
          ∀ t, Matcher.firstOf around k others s' = .ok t →
            ∃ r ∈ q :: others, ∃ s'', s''.place = r ∧ s''.marks = s.marks ∧ k s'' = .ok t := by
      obtain ⟨herror, hok⟩ := ih s' hs'
      refine ⟨herror, fun t ht => ?_⟩
      obtain ⟨r, hr, hend⟩ := hok t ht
      exact ⟨r, List.mem_cons_of_mem q hr, hend⟩
    rw [Matcher.firstOf]
    split
    · cases hq : k { s with place := q, choice := q } with
      | ok t =>
        constructor
        · rintro failed ⟨⟩
        · rintro _ ⟨⟩
          refine ⟨q, List.mem_cons_self, _, ?_, ?_, hq⟩ <;> rfl
      | error failed =>
        have kept : s.marks <+: failed.marks := by
          refine hk _ failed ?_ hq
          rfl
        exact further (marks_retry around.inRounds kept)
    · exact further rfl

/-- A repeated character test is sound before any continuation that keeps the marks. -/
theorem sound_run (hk : Keeps marks k) (least : Nat) (most : Option Nat) (test : CharTest) :
    Sound (.repeated .greedy least most (.char test)) marks k (Matcher.run .greedy least most test around k) := by
  constructor
  · rintro s failed rfl h
    rw [run_eq] at h
    split at h
    · cases h
      exact List.prefix_refl _
    · exact (sound_firstOf hk _ s.choosing rfl).1 failed h
  · rintro s t rfl h
    rw [run_eq] at h
    split at h
    · cases h
    · obtain ⟨q, hq, s', rfl, hmarks, hend⟩ := (sound_firstOf hk _ s.choosing rfl).2 t h
      exact ⟨s', ⟨hmarks, mem_runEnds.1 (List.mem_reverse.1 hq)⟩, hend⟩

/-- The matcher of a linear pattern is sound if what follows keeps the marks. -/
theorem sound_matcher (p : Pattern) (hp : p.isLinear = true) : ∀ {around : Surroundings} {k : Continuation},
    Keeps marks k → Sound p marks k (p.matcher around k) := by
  induction p with
  | empty =>
    intro around k hk
    exact ⟨hk, fun s t _ h => ⟨s, .refl s, h⟩⟩
  | char test =>
    intro around k hk
    exact sound_char hk test
  | sequence first second ihf ihs =>
    rw [isLinear, Bool.and_eq_true] at hp
    intro around k hk
    have hsecond : Sound second marks k (second.matcher around k) := ihs hp.2 hk
    have hfirst : Sound first marks (second.matcher around k) ((Pattern.sequence first second).matcher around k) :=
      ihf hp.1 hsecond.keeps
    refine ⟨hfirst.keeps, ?_⟩
    rintro s t rfl h
    obtain ⟨s', hs', h⟩ := hfirst.passes s t rfl h
    obtain ⟨s'', hs'', h⟩ := hsecond.passes s' t hs'.marks h
    exact ⟨s'', hs'.trans hs'', h⟩
  | repeated mode least most body _ =>
    intro around k hk
    obtain ⟨rfl, test, rfl⟩ := isLinear_repeated hp
    exact sound_run hk least most test
  | anchor kind =>
    intro around k hk
    exact sound_anchor hk kind
  | either | group | sameAs | ifGroup | ahead | behind | atomic => cases hp

/-! ## A group in front -/

/-- A mark after the last known one is added. -/
theorem mark_length (s : Progress) : (s.mark s.marks.length).marks = s.marks ++ [some s.place.offset] := by
  have one : s.marks.length + 1 - s.marks.length = 1 := by omega
  simp only [Progress.mark, one, List.replicate_one]
  rw [List.set_append_right _ _ (Nat.le_refl _), Nat.sub_self]
  rfl

/-- A group whose marks come next is marked where its body begins and ends. -/
theorem exists_of_group {index : Nat} (hindex : 0 < index) (hmarks : s.marks.length = 2 * index - 2)
    (hbody : body.isLinear = true) (hk : ∀ marks, Keeps marks k) (h : (Pattern.group index body).matcher around k s = .ok t) :
    ∃ part after s', s.place.after = part ++ after ∧ body.Matches s.place.before part after ∧
      s'.place = s.place.past part after ∧ s'.marks = s.marks ++ [some s.place.offset, some s'.place.offset] ∧ k s' = .ok t := by
  have opened : (s.openGroup index).marks = s.marks ++ [some s.place.offset] := by
    rw [Progress.openGroup, ← hmarks, mark_length]
  have closed {u : Progress} (hu : u.marks = s.marks ++ [some s.place.offset]) :
      (u.closeGroup index).marks = s.marks ++ [some s.place.offset, some u.place.offset] := by
    have hlength : 2 * index - 1 = u.marks.length := by
      rw [hu, List.length_append, List.length_singleton]
      omega
    rw [Progress.closeGroup, hlength, mark_length, hu, List.append_assoc]
    rfl
  have hkeeps : Keeps (s.marks ++ [some s.place.offset]) fun u => k (u.closeGroup index) := by
    intro u failed hu hfailed
    have hkept := hk _ (u.closeGroup index) failed (closed hu) hfailed
    rw [List.append_cons] at hkept
    exact (List.prefix_append _ _).trans hkept
  obtain ⟨u, ⟨hu, part, after, hs, hpart, hplace⟩, hend⟩ :=
    (sound_matcher body hbody hkeeps).passes (s.openGroup index) t opened h
  exact ⟨part, after, u.closeGroup index, hs, hpart, hplace, closed (hu.trans opened), hend⟩

/-- A match of a group and a linear pattern after it ends behind what both match, and the group holds what its body matches.
The group goes first, and the pattern after it is what its matcher goes on with. -/
theorem matchAt_captures {tail : Pattern} (hbody : body.isLinear = true) (htail : tail.isLinear = true) {p : Place}
    (hoffset : p.offset = p.before.length) {done : Progress}
    (h : (Pattern.sequence (.group 1 body) tail).matchAt p = some done) :
    ∃ part rest after, p.after = part ++ (rest ++ after) ∧ body.Matches p.before part (rest ++ after) ∧
      tail.Matches (part.reverse ++ p.before) rest after ∧ done.place = p.past (part ++ rest) after ∧
      done.captured? 1 = some part := by
  have hmatched : (Pattern.sequence (.group 1 body) tail).matcher ⟨false, none⟩ .ok (.start p) = .ok done := by
    rw [matchAt] at h
    cases hm : (Pattern.sequence (.group 1 body) tail).matcher ⟨false, none⟩ .ok (.start p) with
    | error failed => simp [hm, Except.toOption] at h
    | ok done' => simpa [hm, Except.toOption] using h
  change (Pattern.group 1 body).matcher (tail.inFront ⟨false, none⟩) (tail.matcher ⟨false, none⟩ .ok) (.start p) = .ok done
    at hmatched
  have htail (marks : List (Option Nat)) : Sound tail marks .ok (tail.matcher ⟨false, none⟩ .ok) :=
    sound_matcher tail htail keeps_ok
  obtain ⟨part, left, u, hp, hpart, huplace, hu, hend⟩ :=
    exists_of_group Nat.zero_lt_one rfl hbody (fun marks => (htail marks).keeps) hmatched
  obtain ⟨_, ⟨hdone, rest, after, hleft, hrest, hplace⟩, ⟨⟩⟩ := (htail u.marks).passes u done rfl hend
  rw [huplace] at hleft hrest hplace
  obtain rfl : left = rest ++ after := hleft
  have hplace : done.place = p.past (part ++ rest) after := hplace.trans (Place.past_append part rest after p).symm
  have hmarks : done.marks = [some p.offset, some (p.offset + part.length)] := by
    rw [hdone, hu, huplace]
    rfl
  have held : (p.past (part ++ rest) after).between p.offset (p.offset + part.length) = part := by
    simp [Place.between, Place.past, hoffset, List.drop_left']
  refine ⟨part, rest, after, hp, hpart, hrest, hplace, ?_⟩
  rw [Progress.captured?, hmarks, hplace]
  simp [held]

/-! ## Searches -/

/-- A search finds the first place at which there is a match. -/
theorem searchFrom_eq_some {before : List Char} {offset : Nat} {text : List Char} {q : Place} {done : Progress}
    (h : p.searchFrom before offset text = some (q, done)) :
    ∃ skipped rest, text = skipped ++ rest ∧ q = (Place.mk before text offset).past skipped rest ∧ p.matchAt q = some done ∧
      ∀ a c b, skipped = a ++ c :: b → p.matchAt ((Place.mk before text offset).past a (c :: (b ++ rest))) = none := by
  induction text generalizing before offset with
  | nil =>
    rw [searchFrom, Option.map_eq_some_iff] at h
    obtain ⟨_, hmatch, ⟨⟩⟩ := h
    exact ⟨[], [], rfl, rfl, hmatch, by simp⟩
  | cons d text ih =>
    rw [searchFrom] at h
    cases hmatch : p.matchAt ⟨before, d :: text, offset⟩ with
    | some found =>
      rw [hmatch] at h
      obtain ⟨⟩ := h
      exact ⟨[], d :: text, rfl, rfl, hmatch, by simp⟩
    | none =>
      rw [hmatch] at h
      obtain ⟨skipped, rest, rfl, rfl, hfound, hnone⟩ := ih h
      have further (part left : List Char) : (Place.mk (d :: before) (skipped ++ rest) (offset + 1)).past part left =
          (Place.mk before (d :: (skipped ++ rest)) offset).past (d :: part) left := by
        simp [Place.past, Nat.add_assoc, Nat.add_comm 1]
      refine ⟨d :: skipped, rest, rfl, further skipped rest, hfound, ?_⟩
      intro a c b hsplit
      rcases List.cons_eq_append_iff.1 hsplit with ⟨rfl, hcons⟩ | ⟨a', rfl, hcons⟩
      · obtain ⟨rfl, rfl⟩ := List.cons.inj hcons
        exact hmatch
      · rw [← further a' _]
        exact hnone a' c b hcons

end Pattern

end RegulatoryTrees
