import FactoryOverloads.Proofs.Partition.Markers

/-!
# A partition in a machine word

The bits of a partition are kept in a word of 32 bits. Operations on words are
partial: a difference must not be negative, and a word is moved by less than its
width. Those here have no result outside their domain, so that a result is one
of the machine as well:

* `ofMarkers_eq_ofBits`: moving the markers into a word one after the other gives
  their partition. Markers that do not fit fall out of the word, but then there
  are too many of them for a partition;
* `mask?_eq`, `word_eq_and`: there is a mask for every arity, also for the whole
  width of the word, which a shift does not reach, and a partition keeps of a word
  what the mask leaves;
* `marker?_word`: a marker is read back without leaving the domains;
* `toNat_cpop_word`: the set bits of the word are the explicit positions.

Markers and bits are therefore two views of one partition (`views_agree`).
-/

namespace FactoryOverloads.Partition

/-- A machine word. -/
abbrev Word := BitVec 32

/-- The difference of two numbers, unless it is negative. -/
def difference? (first second : Nat) : Option Nat :=
  if second ≤ first then some (first - second) else none

/-- A word moved to the left by less than its width. -/
def shiftLeft? (word : Word) (places : Nat) : Option Word :=
  if places < 32 then some (word <<< places) else none

/-- A word moved to the right by less than its width. -/
def shiftRight? (word : Word) (places : Nat) : Option Word :=
  if places < 32 then some (word >>> places) else none

/-- The word whose low `arity` bits are set. -/
def mask? (arity : Nat) : Option Word :=
  if arity = 32 then some (BitVec.allOnes 32)
  else do
    let next ← shiftLeft? 1#32 arity
    let number ← difference? next.toNat 1
    return BitVec.ofNat 32 number

/-- Markers moved into a word from the right, one after the other. What leaves
the word on the left is lost. -/
def shiftIn (markers : List Bool) : Word :=
  markers.foldl (fun word marker => word <<< 1 ||| BitVec.ofNat 32 marker.toNat) 0#32

/-- The marker of a position, read from a word. -/
def marker? (arity : Nat) (word : Word) (position : Nat) : Option Bool := do
  let last ← difference? arity 1
  let place ← difference? last position
  let moved ← shiftRight? word place
  return moved &&& 1#32 == 1#32

/-- The bits of a partition as a word. -/
def word (p : Partition) : Word := BitVec.ofNat 32 p.bits

/-- The word holds every bit of a partition. -/
theorem toNat_word (p : Partition) : p.word.toNat = p.bits := by
  have fits : p.bits < 2 ^ 32 :=
    Nat.lt_of_lt_of_le p.bits_lt (Nat.pow_le_pow_right (by decide) p.arity_le)
  rw [word, BitVec.toNat_ofNat, Nat.mod_eq_of_lt fits]

theorem getLsbD_word (p : Partition) (place : Nat) :
    p.word.getLsbD place = p.bits.testBit place := by
  rw [BitVec.getLsbD, toNat_word]

theorem exists_ofBits {arity : Nat} (h : arity ≤ 32) (bits : Nat) :
    ∃ p, ofBits arity bits = .ok p ∧ p.arity = arity ∧ p.bits = bits % 2 ^ arity :=
  ⟨_, dif_pos h, rfl, rfl⟩

/-! ## Into the word -/

theorem toNat_shiftLeft_or (word : Word) (marker : Bool) :
    (word <<< 1 ||| BitVec.ofNat 32 marker.toNat).toNat =
      (2 * word.toNat + marker.toNat) % 2 ^ 32 := by
  have apart : word <<< 1 &&& BitVec.ofNat 32 marker.toNat = 0#32 := by
    ext place below
    cases marker <;> cases place <;> simp
  have small := Bool.toNat_le marker
  rw [← BitVec.add_eq_or_of_and_eq_zero _ _ apart, BitVec.toNat_add, BitVec.toNat_shiftLeft,
    BitVec.toNat_ofNat, Nat.shiftLeft_eq]
  omega

theorem value_concat (markers : List Bool) (marker : Bool) :
    value (markers ++ [marker]) = 2 * value markers + marker.toNat := by
  simp [value]

/-- The word holds the number that the markers spell, as far as the word is
wide, by induction on the markers from the last one on. -/
theorem toNat_shiftIn (markers : List Bool) : (shiftIn markers).toNat = value markers % 2 ^ 32 := by
  induction markers using List.reverseRecOn with
  | nil => rfl
  | append_singleton markers marker ih =>
    rw [shiftIn, List.foldl_append, List.foldl_cons, List.foldl_nil, toNat_shiftLeft_or, ← shiftIn,
      ih, value_concat]
    omega

/-- The partition of markers is that of the word they are moved into, and both
exist for the same lengths. -/
theorem ofMarkers_eq_ofBits (markers : List Bool) :
    ofMarkers markers = ofBits markers.length (shiftIn markers).toNat := by
  unfold ofMarkers ofBits
  split
  case isFalse => rfl
  case isTrue least =>
    have spelled := value_lt markers
    have power : 2 ^ markers.length ≤ 2 ^ 32 := Nat.pow_le_pow_right (by decide) least
    have bits : (shiftIn markers).toNat % 2 ^ markers.length = value markers := by
      rw [toNat_shiftIn, Nat.mod_eq_of_lt (Nat.lt_of_lt_of_le spelled power),
        Nat.mod_eq_of_lt spelled]
    simp only [bits]

theorem mask?_eq {arity : Nat} (h : arity ≤ 32) :
    mask? arity = some (BitVec.ofNat 32 (2 ^ arity - 1)) := by
  unfold mask?
  split
  case isTrue whole =>
    subst whole
    rfl
  case isFalse narrower =>
    have below : arity < 32 := by omega
    have power : 2 ^ arity < 2 ^ 32 := Nat.pow_lt_pow_right (by decide) below
    have moved : shiftLeft? 1#32 arity = some (1#32 <<< arity) := if_pos below
    have next : (1#32 <<< arity).toNat = 2 ^ arity := by
      rw [BitVec.toNat_shiftLeft, Nat.shiftLeft_eq, show (1#32).toNat = 1 from rfl, Nat.one_mul,
        Nat.mod_eq_of_lt power]
    have number : difference? (2 ^ arity) 1 = some (2 ^ arity - 1) := if_pos Nat.one_le_two_pow
    simp only [moved, Option.bind_eq_bind, Option.bind_some, next, number, Option.pure_def]

/-- A partition keeps of a word what the mask of its arity leaves. -/
theorem word_eq_and {p : Partition} {bits : Word} (h : p.bits = bits.toNat % 2 ^ p.arity) :
    ∃ mask, mask? p.arity = some mask ∧ p.word = bits &&& mask := by
  refine ⟨_, mask?_eq p.arity_le, BitVec.eq_of_toNat_eq ?_⟩
  have power : 2 ^ p.arity ≤ 2 ^ 32 := Nat.pow_le_pow_right (by decide) p.arity_le
  have positive := Nat.two_pow_pos p.arity
  rw [toNat_word, h, BitVec.toNat_and, BitVec.toNat_ofNat,
    Nat.mod_eq_of_lt (show 2 ^ p.arity - 1 < 2 ^ 32 by omega), Nat.and_two_pow_sub_one_eq_mod]

/-! ## Out of the word -/

/-- The marker of a position is a bit of the word that a partition was made of. -/
theorem isExplicit_eq_getLsbD {p : Partition} {bits : Word}
    (h : p.bits = bits.toNat % 2 ^ p.arity) {position : Nat} (below : position < p.arity) :
    p.isExplicit position = bits.getLsbD (p.arity - 1 - position) := by
  have place : p.arity - 1 - position < p.arity := by omega
  rw [isExplicit, h, Nat.testBit_mod_two_pow, decide_eq_true place, Bool.true_and, BitVec.getLsbD]

theorem marker_eq {p : Partition} {position : Nat} (below : position < p.arity) :
    p.marker position = .ok (p.isExplicit position) :=
  if_pos below

/-- No operation that reads the marker of a position leaves its domain. -/
theorem marker?_word (p : Partition) {position : Nat} (below : position < p.arity) :
    marker? p.arity p.word position = some (p.isExplicit position) := by
  have least := p.arity_le
  have last : difference? p.arity 1 = some (p.arity - 1) := if_pos (by omega)
  have place : difference? (p.arity - 1) position = some (p.arity - 1 - position) :=
    if_pos (by omega)
  have moved : shiftRight? p.word (p.arity - 1 - position) =
      some (p.word >>> (p.arity - 1 - position)) := if_pos (by omega)
  have bit : (p.word >>> (p.arity - 1 - position) &&& 1#32 == 1#32) = p.isExplicit position := by
    rw [BitVec.and_one_eq_setWidth_ofBool_getLsbD, BitVec.getLsbD_ushiftRight, Nat.add_zero,
      getLsbD_word, isExplicit]
    cases p.bits.testBit (p.arity - 1 - position) <;> rfl
  simp only [marker?, last, place, moved, Option.bind_eq_bind, Option.bind_some, Option.pure_def,
    bit]

/-! ## Set bits -/

/-- Above its own bits a number has no set bit to count. -/
theorem countP_testBit {number least most : Nat} (below : number < 2 ^ least) (h : least ≤ most) :
    (List.range most).countP number.testBit = (List.range least).countP number.testBit := by
  induction most, h using Nat.le_induction with
  | base => rfl
  | succ most h ih =>
    have clear : number.testBit most = false :=
      Nat.testBit_eq_false_of_lt
        (Nat.lt_of_lt_of_le below (Nat.pow_le_pow_right (by decide) h))
    rw [List.range_succ, List.countP_append, ih]
    simp [clear]

theorem toNat_cpop (word : Word) : word.cpop.toNat = (List.range 32).countP word.getLsbD := by
  have counted (width : Nat) :
      word.cpopNatRec width 0 = (List.range width).countP word.getLsbD := by
    induction width with
    | zero => rfl
    | succ width ih =>
      rw [BitVec.cpopNatRec_succ, BitVec.cpopNatRec_eq, ih, List.range_succ, List.countP_append]
      cases h : word.getLsbD width <;> simp [h]
  rw [BitVec.toNat_cpop, counted]

/-- The set bits of the whole word are the explicit positions. -/
theorem toNat_cpop_word (p : Partition) : p.word.cpop.toNat = p.explicitCount := by
  have bits : p.word.getLsbD = p.bits.testBit := funext p.getLsbD_word
  rw [toNat_cpop, bits, explicitCount, populationCount_eq, countP_testBit p.bits_lt p.arity_le]

theorem explicitCount_eq_count (p : Partition) : p.explicitCount = p.markers.count true := by
  rw [explicitCount_eq, explicitBefore, markers, List.count, List.countP_map]
  exact List.countP_congr fun position _ => by simp

/-! ## Two views -/

/-- The partition shows the low bits of a word, one at each position, and can be
read and built again from what it shows. -/
structure Shows (p : Partition) (arity : Nat) (bits : Word) : Prop where
  arity_eq : p.arity = arity
  bits_eq : p.bits = bits.toNat % 2 ^ arity
  masked : ∃ mask, mask? arity = some mask ∧ p.word = bits &&& mask
  marked : ∀ position < arity, p.marker position = .ok (bits.getLsbD (arity - 1 - position))
  /-- The same marker, read from the word that the partition keeps. -/
  read : ∀ position < arity,
    marker? arity p.word position = some (bits.getLsbD (arity - 1 - position))
  rebuilt : ofMarkers p.markers = .ok p
  counted : p.explicitCount = p.markers.count true
  populated : p.word.cpop.toNat = p.explicitCount

theorem shows_of_bits {p : Partition} {bits : Word} (h : p.bits = bits.toNat % 2 ^ p.arity) :
    p.Shows p.arity bits where
  arity_eq := rfl
  bits_eq := h
  masked := word_eq_and h
  marked position below := by rw [marker_eq below, isExplicit_eq_getLsbD h below]
  read position below := by rw [marker?_word p below, isExplicit_eq_getLsbD h below]
  rebuilt := ofMarkers_markers p
  counted := explicitCount_eq_count p
  populated := toNat_cpop_word p

/-- Markers make a partition if a word can hold them, and are its markers then.
A word and an arity make the partition that shows the low bits of the word. A
partition is known from its pattern. -/
theorem views_agree :
    (∀ markers : List Bool,
      ofMarkers markers = ofBits markers.length (shiftIn markers).toNat) ∧
    (∀ markers : List Bool, markers.length ≤ 32 →
      ∃ p, ofMarkers markers = .ok p ∧ p.arity = markers.length ∧ p.markers = markers) ∧
    (∀ markers : List Bool, 32 < markers.length →
      ofMarkers markers = .error (.arityLimit markers.length)) ∧
    (∀ (arity : Nat) (bits : Word), arity ≤ 32 →
      ∃ p, ofBits arity bits.toNat = .ok p ∧ p.Shows arity bits) ∧
    ∀ p q : Partition, p = q ↔ p.pattern = q.pattern := by
  refine ⟨ofMarkers_eq_ofBits, fun markers fits => ?fit, fun markers many => ?excess,
    fun arity bits fits => ?word, fun p q => pattern_injective.eq_iff.symm⟩
  case fit =>
    obtain ⟨p, built⟩ := exists_ofMarkers fits
    have own := markers_ofMarkers built
    exact ⟨p, built, by rw [← length_markers, own], own⟩
  case excess => exact dif_neg (Nat.not_le.mpr many)
  case word =>
    obtain ⟨p, built, rfl, bits_eq⟩ := exists_ofBits fits bits.toNat
    exact ⟨p, built, shows_of_bits bits_eq⟩

theorem views_agree_at_whole_width :
    (∃ p, ofMarkers (List.replicate 32 true) = .ok p ∧ p.arity = 32 ∧
      p.markers = List.replicate 32 true) ∧
    ofMarkers (List.replicate 33 true) = .error (.arityLimit 33) ∧
    ∃ p, ofBits 32 (BitVec.allOnes 32).toNat = .ok p ∧ p.Shows 32 (BitVec.allOnes 32) :=
  ⟨views_agree.2.1 (List.replicate 32 true) (by decide),
    views_agree.2.2.1 (List.replicate 33 true) (by decide),
    views_agree.2.2.2.1 32 (BitVec.allOnes 32) (by decide)⟩

end FactoryOverloads.Partition
