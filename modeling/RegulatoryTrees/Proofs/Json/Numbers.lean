import Mathlib.Data.List.TakeDrop
import RegulatoryTrees.Proofs.Number.Doubles
import RegulatoryTrees.Json
import RegulatoryTrees.Value.Rendering

/-!
# Numbers are read back

What is written for an integer or a double is read as that number, if the text ends there or goes on with a separator. A double
is read from the digits that were written around its point; that they are the right ones is `Decimal.toDouble_shortest`.
-/

namespace RegulatoryTrees

namespace Json

/-- The rest of a text begins with no character that could belong to a number. -/
def Parts (rest : List Char) : Prop := ∀ c ∈ rest.head?, c = ',' ∨ c = ']' ∨ c = '}'

theorem parts_nil : Parts [] := nofun

theorem parts_cons {c : Char} (rest : List Char) (h : c = ',' ∨ c = ']' ∨ c = '}') : Parts (c :: rest) := by
  intro d hd
  rw [List.head?_cons, Option.mem_some_iff] at hd
  exact hd ▸ h

/-! ## Digits -/

/-- A character after which the digits of a number are over. -/
def EndsDigits (rest : List Char) : Prop := ∀ c ∈ rest.head?, Text.isAsciiDigit c = false

/-- What could not belong to a number ends its digits. -/
theorem Parts.endsDigits {rest : List Char} (h : Parts rest) : EndsDigits rest := by
  intro c hc
  rcases h c hc with rfl | rfl | rfl <;> rfl

theorem endsDigits_cons {c : Char} (rest : List Char) (h : Text.isAsciiDigit c = false) : EndsDigits (c :: rest) := by
  intro d hd
  rw [List.head?_cons, Option.mem_some_iff] at hd
  exact hd ▸ h

/-- Digits are read up to what ends them. -/
theorem digits_append {ds rest : List Char} (hds : ∀ c ∈ ds, Text.isAsciiDigit c = true) (hr : EndsDigits rest) :
    digits (ds ++ rest) = (ds, rest) := by
  have hstop : rest.takeWhile Text.isAsciiDigit = [] ∧ rest.dropWhile Text.isAsciiDigit = rest := by
    cases rest with
    | nil => exact ⟨rfl, rfl⟩
    | cons c rest =>
      have hc := hr c rfl
      exact ⟨List.takeWhile_cons_of_neg (by simp [hc]), List.dropWhile_cons_of_neg (by simp [hc])⟩
  rw [digits, List.span_eq_takeWhile_dropWhile, List.takeWhile_append_of_pos hds, List.dropWhile_append_of_pos hds, hstop.1,
    hstop.2, List.append_nil]

/-- The digits before the point are read up to what ends them, if they begin with no zero or are one. -/
theorem integerDigits_append {ds rest : List Char} (hds : ∀ c ∈ ds, Text.isAsciiDigit c = true)
    (hzero : ds.head? ≠ some '0' ∨ ds = ['0']) (hr : EndsDigits rest) : integerDigits (ds ++ rest) = (ds, rest) := by
  rcases hzero with hzero | rfl
  · have hhead : ∀ cs, ds ++ rest ≠ '0' :: cs := by
      intro cs hcs
      cases ds with
      | nil =>
        rw [List.nil_append] at hcs
        rw [hcs] at hr
        exact absurd (hr '0' rfl) (by decide)
      | cons d ds => exact hzero (by rw [List.cons_append] at hcs; rw [List.cons.inj hcs |>.1]; rfl)
    rw [integerDigits, digits_append hds hr]
    exact hhead
  · rfl

/-- The digits after a point are read up to what ends them. -/
theorem fractionDigits_append {ds rest : List Char} (hds : ∀ c ∈ ds, Text.isAsciiDigit c = true) (hne : ds ≠ [])
    (hr : EndsDigits rest) : fractionDigits ('.' :: (ds ++ rest)) = (ds, rest) := by
  rw [fractionDigits, digits_append hds hr]
  obtain ⟨d, ds, rfl⟩ := List.exists_cons_of_ne_nil hne
  rfl

/-- Without a point there are no digits after it. -/
theorem fractionDigits_of_head {rest : List Char} (h : rest.head? ≠ some '.') : fractionDigits rest = ([], rest) := by
  rw [fractionDigits]
  rintro cs rfl
  exact h rfl

/-- Without a letter for it there is no exponent. -/
theorem exponentOf_of_head {rest : List Char} (h : ∀ c ∈ rest.head?, c ≠ 'e' ∧ c ≠ 'E') : exponentOf rest = (none, rest) := by
  cases rest with
  | nil => rfl
  | cons c rest =>
    obtain ⟨he, hE⟩ := h c rfl
    simp [exponentOf, he, hE]

/-- There is no fraction where a number is over. -/
theorem Parts.fractionDigits {rest : List Char} (h : Parts rest) : fractionDigits rest = ([], rest) := by
  apply fractionDigits_of_head
  intro hc
  rcases h '.' hc with hc | hc | hc <;> exact absurd hc (by decide)

theorem Parts.exponentOf {rest : List Char} (h : Parts rest) : exponentOf rest = (none, rest) := by
  apply exponentOf_of_head
  intro c hc
  rcases h c hc with rfl | rfl | rfl <;> decide

/-- An exponent with its sign is read up to what ends its digits. -/
theorem exponentOf_append (negative : Bool) {ds rest : List Char} (hds : ∀ c ∈ ds, Text.isAsciiDigit c = true) (hne : ds ≠ [])
    (hr : EndsDigits rest) :
    exponentOf ('e' :: (if negative then '-' else '+') :: (ds ++ rest)) =
      (some (if negative then -(Decimal.natOfDigits ds : Int) else Decimal.natOfDigits ds), rest) := by
  have hread := digits_append hds hr
  obtain ⟨d, ds, rfl⟩ := List.exists_cons_of_ne_nil hne
  rw [List.cons_append] at hread ⊢
  cases negative with
  | false => simp [Json.exponentOf, hread]
  | true => simp [Json.exponentOf, hread]

/-! ## Numbers -/

/-- What stands before the digits of a number. -/
def sign (negative : Bool) : List Char := if negative then ['-'] else []

/-- A number is read from its parts: with digits after a point or an exponent it is a double, without either an integer. -/
theorem number_of_parts (negative : Bool) {cs whole fraction rest rest' rest'' : List Char} {exponent : Option Int}
    (hcs : cs.head? ≠ some '-') (hwhole : integerDigits cs = (whole, rest)) (hne : whole ≠ [])
    (hfraction : Json.fractionDigits rest = (fraction, rest')) (hexponent : Json.exponentOf rest' = (exponent, rest'')) :
    number none (sign negative ++ cs) =
      if fraction.isEmpty && exponent.isNone then
        .ok (.int (if negative then -(Decimal.natOfDigits whole : Int) else Decimal.natOfDigits whole), rest'')
      else .ok (.double (Decimal.toDouble negative (Decimal.natOfDigits (whole ++ fraction))
        (exponent.getD 0 - fraction.length)), rest'') := by
  obtain ⟨w, ws, rfl⟩ := List.exists_cons_of_ne_nil hne
  cases negative with
  | true =>
    rw [sign, if_pos rfl, List.singleton_append, number]
    simp [hwhole, hfraction, hexponent]
  | false =>
    rw [sign, if_neg Bool.false_ne_true, List.nil_append, number]
    · simp [hwhole, hfraction, hexponent]
    · rintro r rfl
      exact hcs rfl

/-- An integer is its size with its sign. -/
theorem signed_natAbs (n : Int) : (if decide (n < 0) = true then -(n.natAbs : Int) else n.natAbs) = n := by
  by_cases hn : n < 0
  · rw [if_pos (by simpa using hn)]
    omega
  · rw [if_neg (by simpa using hn)]
    omega

/-- What is written for an integer is read as the integer. -/
theorem number_ofInt (n : Int) {rest : List Char} (hr : Parts rest) :
    number none ((Decimal.ofInt n).toList ++ rest) = .ok (.int n, rest) := by
  have htext : (Decimal.ofInt n).toList = sign (decide (n < 0)) ++ Decimal.digitsOf n.natAbs := by
    rw [Decimal.ofInt, sign]
    by_cases hn : n < 0 <;> simp [hn]
  have hhead : ∀ c ∈ (Decimal.digitsOf n.natAbs ++ rest).head?, Text.isAsciiDigit c = true := by
    obtain ⟨d, ds, hd⟩ := List.exists_cons_of_ne_nil (Decimal.digitsOf_ne_nil n.natAbs)
    intro c hc
    rw [hd, List.cons_append, List.head?_cons, Option.mem_some_iff] at hc
    exact hc ▸ Decimal.isAsciiDigit_of_mem_digitsOf (hd ▸ List.mem_cons_self)
  have hzero : (Decimal.digitsOf n.natAbs).head? ≠ some '0' ∨ Decimal.digitsOf n.natAbs = ['0'] := by
    rcases Nat.eq_zero_or_pos n.natAbs with h | h
    · rw [h]
      exact Or.inr Decimal.digitsOf_zero
    · exact Or.inl (Decimal.head?_digitsOf h)
  have hwhole := integerDigits_append (fun c => Decimal.isAsciiDigit_of_mem_digitsOf) hzero hr.endsDigits
  have hminus : (Decimal.digitsOf n.natAbs ++ rest).head? ≠ some '-' := fun h => absurd (hhead '-' h) (by decide)
  rw [htext, List.append_assoc, number_of_parts _ hminus hwhole (Decimal.digitsOf_ne_nil _) hr.fractionDigits hr.exponentOf,
    Decimal.natOfDigits_digitsOf]
  rw [signed_natAbs]
  rfl

section Doubles

variable {kept rest : List Char}

/-- Digits with a point before them, and zeros between, are read as those digits. -/
theorem number_pointBefore (negative : Bool) (zeros : Nat) (hkept : ∀ c ∈ kept, Text.isAsciiDigit c = true) (hne : kept ≠ [])
    (hr : Parts rest) :
    number none (sign negative ++ '0' :: '.' :: (List.replicate zeros '0' ++ kept ++ rest)) =
      .ok (.double (Decimal.toDouble negative (Decimal.natOfDigits kept) (-zeros - kept.length)), rest) := by
  have hds : ∀ c ∈ List.replicate zeros '0' ++ kept, Text.isAsciiDigit c = true := by
    intro c hc
    rcases List.mem_append.1 hc with hc | hc
    · rw [List.eq_of_mem_replicate hc]
      rfl
    · exact hkept c hc
  have hfraction := fractionDigits_append hds (by simp [hne]) hr.endsDigits
  have hwhole : integerDigits ('0' :: '.' :: (List.replicate zeros '0' ++ kept ++ rest)) =
    (['0'], '.' :: (List.replicate zeros '0' ++ kept ++ rest)) := rfl
  have hnonempty : (List.replicate zeros '0' ++ kept).isEmpty = false := by simp [hne]
  rw [number_of_parts negative (by simp) hwhole (by simp) hfraction hr.exponentOf, hnonempty, if_neg (by simp),
    List.singleton_append, ← List.cons_append, ← List.replicate_succ, Decimal.natOfDigits_zeros_append, List.length_append,
    List.length_replicate]
  congr 4
  rw [Option.getD_none]
  omega

/-- Digits with a point after some of them are read as those digits. -/
theorem number_pointWithin (negative : Bool) {whole fraction : List Char} (hwhole : ∀ c ∈ whole, Text.isAsciiDigit c = true)
    (hne : whole ≠ []) (hzero : whole.head? ≠ some '0') (hfraction : ∀ c ∈ fraction, Text.isAsciiDigit c = true)
    (hne' : fraction ≠ []) (hr : Parts rest) :
    number none (sign negative ++ (whole ++ '.' :: (fraction ++ rest))) =
      .ok (.double (Decimal.toDouble negative (Decimal.natOfDigits (whole ++ fraction)) (-fraction.length)), rest) := by
  have hminus : (whole ++ '.' :: (fraction ++ rest)).head? ≠ some '-' := by
    obtain ⟨w, ws, rfl⟩ := List.exists_cons_of_ne_nil hne
    rw [List.cons_append, List.head?_cons]
    rintro ⟨⟩
    exact absurd (hwhole '-' List.mem_cons_self) (by decide)
  have hpoint : EndsDigits ('.' :: (fraction ++ rest)) := endsDigits_cons _ rfl
  have hread := integerDigits_append hwhole (Or.inl hzero) hpoint
  have hnonempty : fraction.isEmpty = false := by simp [hne']
  rw [number_of_parts negative hminus hread hne (fractionDigits_append hfraction hne' hr.endsDigits) hr.exponentOf, hnonempty,
    if_neg (by simp), Option.getD_none, Int.zero_sub]

/-- Digits around a point are read as the digits with the point where it was set. Where the point is behind the digits, zeros
fill the gap up to it, and one stands after it. -/
theorem number_positional (negative : Bool) (point : Int) (hkept : ∀ c ∈ kept, Text.isAsciiDigit c = true) (hne : kept ≠ [])
    (hzero : kept.head? ≠ some '0') (hr : Parts rest) :
    number none (sign negative ++ (Decimal.positional kept point ++ rest)) =
      .ok (.double (Decimal.toDouble negative (Decimal.natOfDigits kept) (point - kept.length)), rest) := by
  rw [Decimal.positional]
  by_cases hpoint : point ≤ 0
  · obtain ⟨zeros, rfl⟩ : ∃ k : Nat, point = -k := ⟨point.natAbs, by omega⟩
    rw [if_pos hpoint, Int.neg_neg, Int.toNat_natCast, List.cons_append, List.cons_append,
      number_pointBefore negative zeros hkept hne hr]
  · obtain ⟨k, rfl⟩ : ∃ k : Nat, point = k := ⟨point.toNat, by omega⟩
    have hpos : 0 < k := by omega
    rw [if_neg hpoint, Int.toNat_natCast]
    by_cases hlength : kept.length ≤ k
    · obtain ⟨gap, rfl⟩ := Nat.exists_eq_add_of_le hlength
      have hpadded : (kept ++ List.replicate gap '0').length = kept.length + gap := by simp
      have hwhole : ∀ c ∈ kept ++ List.replicate gap '0', Text.isAsciiDigit c = true := by
        intro c hc
        rcases List.mem_append.1 hc with hc | hc
        · exact hkept c hc
        · rw [List.eq_of_mem_replicate hc]
          rfl
      have hhead : (kept ++ List.replicate gap '0').head? ≠ some '0' := by
        rw [List.head?_append, List.head?_eq_some_head hne, Option.some_or, ← List.head?_eq_some_head hne]
        exact hzero
      dsimp only
      rw [Nat.add_sub_cancel_left, List.take_of_length_le (by omega), List.drop_of_length_le (by omega), List.isEmpty_nil,
        if_pos rfl, List.append_assoc, List.cons_append,
        number_pointWithin negative hwhole (by simp [hne]) hhead (by simp [Text.isAsciiDigit]) (by simp) hr,
        List.append_assoc, ← List.replicate_succ', Decimal.natOfDigits_append_zeros, Decimal.toDouble_mul_pow]
      congr 4
      have hone : ['0'].length = 1 := rfl
      omega
    · have hgap : k - kept.length = 0 := by omega
      have hafter : (kept.drop k).isEmpty = false := by simp; omega
      have hhead : (kept.take k).head? ≠ some '0' := by
        rwa [List.head?_take, if_neg (by omega)]
      dsimp only
      rw [hgap, List.replicate_zero, List.append_nil, hafter, if_neg (by simp), List.append_assoc, List.cons_append,
        number_pointWithin negative (fun c hc => hkept c (List.mem_of_mem_take hc)) _ hhead
          (fun c hc => hkept c (List.mem_of_mem_drop hc)) _ hr, List.take_append_drop, List.length_drop]
      · congr 4
        omega
      · simp only [ne_eq, List.take_eq_nil_iff, not_or]
        exact ⟨by omega, hne⟩
      · simp; omega

/-- One digit, the others after a point, and an exponent are read as the digits with the point where the exponent sets it. -/
theorem number_scientific (form : Decimal.Form) (negative : Bool) (exponent : Int)
    (hkept : ∀ c ∈ kept, Text.isAsciiDigit c = true) (hne : kept ≠ []) (hzero : kept.head? ≠ some '0') (hr : Parts rest) :
    number none (sign negative ++ (Decimal.scientific form kept exponent ++ rest)) =
      .ok (.double (Decimal.toDouble negative (Decimal.natOfDigits kept) (exponent + 1 - kept.length)), rest) := by
  obtain ⟨d, ds, rfl⟩ := List.exists_cons_of_ne_nil hne
  have hd : ∀ c ∈ [d], Text.isAsciiDigit c = true := fun c hc => List.mem_singleton.1 hc ▸ hkept d List.mem_cons_self
  have hd0 : [d].head? ≠ some '0' := hzero
  have hminus : d ≠ '-' := by
    rintro rfl
    exact absurd (hkept '-' List.mem_cons_self) (by decide)
  obtain ⟨zeros, hzeros⟩ : ∃ zeros, zeros = form.exponentDigits - (Decimal.digitsOf exponent.natAbs).length := ⟨_, rfl⟩
  have hsize : ∀ c ∈ List.replicate zeros '0' ++ Decimal.digitsOf exponent.natAbs, Text.isAsciiDigit c = true := by
    intro c hc
    rcases List.mem_append.1 hc with hc | hc
    · rw [List.eq_of_mem_replicate hc]
      rfl
    · exact Decimal.isAsciiDigit_of_mem_digitsOf hc
  have hexponent := exponentOf_append (decide (exponent < 0)) hsize (by simp [Decimal.digitsOf_ne_nil]) hr.endsDigits
  rw [Decimal.natOfDigits_zeros_append, Decimal.natOfDigits_digitsOf, signed_natAbs] at hexponent
  simp only [decide_eq_true_eq] at hexponent
  obtain ⟨tail, htail⟩ : ∃ tail, tail = 'e' :: (if exponent < 0 then '-' else '+') ::
    (List.replicate zeros '0' ++ Decimal.digitsOf exponent.natAbs ++ rest) := ⟨_, rfl⟩
  rw [← htail] at hexponent
  have hletter : EndsDigits tail := htail ▸ endsDigits_cons _ rfl
  have hpoint : tail.head? ≠ some '.' := by simp [htail]
  cases ds with
  | nil =>
    have htext : Decimal.scientific form [d] exponent ++ rest = [d] ++ tail := by
      simp [Decimal.scientific, hzeros, htail]
    rw [htext, number_of_parts negative (by simpa using hminus) (integerDigits_append hd (Or.inl hd0) hletter) (by simp)
      (fractionDigits_of_head hpoint) hexponent]
    simp
  | cons d' ds =>
    have htext : Decimal.scientific form (d :: d' :: ds) exponent ++ rest = [d] ++ '.' :: ((d' :: ds) ++ tail) := by
      simp [Decimal.scientific, hzeros, htail]
    have hfraction := fractionDigits_append (fun c hc => hkept c (List.mem_cons_of_mem d hc)) (by simp) hletter
    rw [htext, number_of_parts negative (by simpa using hminus)
      (integerDigits_append hd (Or.inl hd0) (endsDigits_cons _ rfl)) (by simp) hfraction hexponent, if_neg (by simp),
      List.singleton_append, Option.getD_some]
    congr 4
    simp only [List.length_cons]
    omega

/-- What is written for a positive magnitude is read as its double. The digits written are those of the shortest decimal
without the zeros at the end. -/
theorem number_magnitudeText (form : Decimal.Form) (negative : Bool) {m : Magnitude} (hm : 0 < m.units) (hr : Parts rest) :
    number none (sign negative ++ (Decimal.magnitudeText form m.units ++ rest)) = .ok (.double (.finite negative m), rest) := by
  have hshortest := Decimal.toDouble_shortest negative m hm
  have hpos := Decimal.shortest_pos m hm
  rw [Decimal.magnitudeText]
  generalize Decimal.shortest m.units = decimal at hshortest hpos ⊢
  obtain ⟨n, exponent⟩ := decimal
  dsimp only at hshortest hpos ⊢
  obtain ⟨zeros, hzeros⟩ := Decimal.eq_significant_append (Decimal.digitsOf n)
  have hhead := Decimal.head?_significant (Decimal.head?_digitsOf hpos)
  rw [← Decimal.significant]
  obtain ⟨kept, hkept⟩ : ∃ kept, kept = Decimal.significant (Decimal.digitsOf n) := ⟨_, rfl⟩
  rw [← hkept] at hzeros hhead ⊢
  have hds : ∀ c ∈ kept, Text.isAsciiDigit c = true :=
    fun c hc => Decimal.isAsciiDigit_of_mem_digitsOf (hzeros ▸ List.mem_append_left _ hc)
  have hzero : kept.head? ≠ some '0' := hhead ▸ Decimal.head?_digitsOf hpos
  have hne : kept ≠ [] := by
    rintro rfl
    exact Decimal.digitsOf_ne_nil n (List.head?_eq_none_iff.1 hhead.symm)
  have hlength : ((Decimal.digitsOf n).length : Int) = kept.length + zeros := by
    rw [hzeros, List.length_append, List.length_replicate]
    omega
  have hvalue : Decimal.toDouble negative (Decimal.natOfDigits kept)
      (exponent + (Decimal.digitsOf n).length - 1 + 1 - kept.length) = .finite negative m := by
    have hn : Decimal.natOfDigits kept * Nat.pow 10 zeros = n := by
      rw [← Decimal.natOfDigits_append_zeros, ← hzeros, Decimal.natOfDigits_digitsOf]
    have hshift : exponent + (Decimal.digitsOf n).length - 1 + 1 - kept.length = exponent + zeros := by omega
    rw [hshift, ← Decimal.toDouble_mul_pow, hn, hshortest]
  split
  · rw [number_positional negative _ hds hne hzero hr, hvalue]
  · rw [number_scientific form negative _ hds hne hzero hr, hvalue]

end Doubles

/-! ## Words and numbers -/

/-- A word is not read as a number. -/
theorem number_word (limit : Option Nat) {word : String} {v : Value} (h : (word, v) ∈ words) (rest : List Char) :
    ∃ f, number limit (word.toList ++ rest) = .error f := by
  simp only [words, List.mem_cons, Prod.mk.injEq, List.not_mem_nil, or_false] at h
  rcases h with ⟨rfl, -⟩ | ⟨rfl, -⟩ | ⟨rfl, -⟩ | ⟨rfl, -⟩ | ⟨rfl, -⟩ | ⟨rfl, -⟩ <;> exact ⟨_, rfl⟩

/-- What follows a word does so. -/
theorem eq_append_of_afterWord? {word : String} {cs rest : List Char} (h : afterWord? word cs = some rest) :
    cs = word.toList ++ rest := by
  unfold afterWord? at h
  by_cases hp : word.toList.isPrefixOf cs
  · obtain ⟨after, rfl⟩ := List.isPrefixOf_iff_prefix.1 hp
    simpa [hp] using h
  · simp [hp] at h

/-- What is read as a number is no word. -/
theorem atom_of_number {limit : Option Nat} {cs : List Char} {found : Value × List Char} (h : number limit cs = .ok found) :
    atom limit cs = .ok found := by
  rw [atom]
  split
  · next _ hfound =>
    obtain ⟨⟨word, v⟩, hw, hword⟩ := List.exists_of_findSome?_eq_some hfound
    obtain ⟨rest, hrest, -⟩ := Option.map_eq_some_iff.1 hword
    obtain ⟨f, hf⟩ := number_word limit hw rest
    rw [eq_append_of_afterWord? hrest, hf] at h
    cases h
  · exact h

/-- What is written for a double is read as the double. -/
theorem atom_double (d : Double) {rest : List Char} (hr : Parts rest) :
    atom none ((Rendering.double d).toList ++ rest) = .ok (.double d, rest) := by
  match d with
  | .nan => rfl
  | .infinite false => rfl
  | .infinite true => rfl
  | .finite s m =>
    have htext : (Rendering.double (.finite s m)).toList =
        sign s ++ if m.units = 0 then ['0', '.', '0'] else Decimal.magnitudeText Rendering.doubleForm m.units := by
      rw [Rendering.double, Decimal.ofDoubleIn, String.toList_ofList, sign]
      cases s <;> simp
    apply atom_of_number
    rw [htext, List.append_assoc]
    by_cases hm : m.units = 0
    · have hzero : number none (sign s ++ (['0', '.', '0'] ++ rest)) =
          .ok (.double (Decimal.toDouble s (Decimal.natOfDigits ['0']) (-(0 : Nat) - 1)), rest) :=
        number_pointBefore s 0 (by simp [Text.isAsciiDigit]) (List.cons_ne_nil _ _) hr
      have hm' : Double.zero s = .finite s m := by
        obtain ⟨units, hu⟩ := m
        dsimp only at hm
        subst hm
        rfl
      rw [if_pos hm, hzero, ← hm', ← Decimal.toDouble_zero s (-(0 : Nat) - 1)]
      rfl
    · rw [if_neg hm]
      exact number_magnitudeText _ s (Nat.pos_of_ne_zero hm) hr

end Json

end RegulatoryTrees
