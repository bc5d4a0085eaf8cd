/-!
# Beginnings and ends of texts

Removing a given beginning or end from a text, exactly or without regard to the case of
ASCII letters, and finding one text in another.  The main statements are
`stripPrefix?_eq_some_iff`, `stripSuffix?_eq_some_iff` and
`stripPrefixIgnoringCase?_eq_some_iff`.
-/

namespace NativeApi.Text

/-- What follows `start` in a text that begins with it. -/
def stripPrefix? : (start cs : List Char) → Option (List Char)
  | [], cs => some cs
  | _ :: _, [] => none
  | p :: start, c :: cs => if p = c then stripPrefix? start cs else none

theorem stripPrefix?_eq_some_iff {start cs rest : List Char} :
  stripPrefix? start cs = some rest ↔ cs = start ++ rest
  := by
  fun_induction stripPrefix? start cs with
  | case1 cs => simp
  | case2 => simp
  | case3 p start cs ih => simp [ih]
  | case4 p start c cs h => simp [Ne.symm h]

/-- What precedes `tail` in a text that ends with it. -/
def stripSuffix? (tail cs : List Char) : Option (List Char) :=
  (stripPrefix? tail.reverse cs.reverse).map List.reverse

theorem stripSuffix?_eq_some_iff {tail cs front : List Char} :
  stripSuffix? tail cs = some front ↔ cs = front ++ tail
  := by
  unfold stripSuffix?
  rw [Option.map_eq_some_iff]
  simp only [stripPrefix?_eq_some_iff]
  constructor
  · rintro ⟨rest, h, rfl⟩
    rw [← List.reverse_reverse cs, h, List.reverse_append, List.reverse_reverse]
  · rintro rfl
    exact ⟨front.reverse, List.reverse_append, List.reverse_reverse front⟩

/-! ### Beginnings without regard to case -/

/-- Whether two texts are the same but for the case of ASCII letters. -/
def equalIgnoringCase (cs ds : List Char) : Bool :=
  cs.map Char.toLower == ds.map Char.toLower

/-- The number of bytes of a text in UTF-8. -/
def byteCount : List Char → Nat
  | [] => 0
  | c :: cs => c.utf8Size + byteCount cs

/-- The two parts of a text that is cut behind the given number of bytes, unless that number
falls inside a character or behind the end. -/
def cutAtByte? : (n : Nat) → List Char → Option (List Char × List Char)
  | 0, cs => some ([], cs)
  | _ + 1, [] => none
  | n + 1, c :: cs =>
    if c.utf8Size ≤ n + 1 then
      (cutAtByte? (n + 1 - c.utf8Size) cs).map fun (front, rest) => (c :: front, rest)
    else none

/-- What follows `start` in a text that begins with it but for the case of ASCII
letters: the text is cut behind as many bytes as `start` has, and the first part is
compared with `start`. -/
def stripPrefixIgnoringCase? (start cs : List Char) : Option (List Char) :=
  match cutAtByte? (byteCount start) cs with
  | some (front, rest) => if equalIgnoringCase front start then some rest else none
  | none => none

@[simp]
theorem byteCount_nil :
  byteCount [] = 0
  := rfl

@[simp]
theorem byteCount_cons (c : Char) (cs : List Char) :
  byteCount (c :: cs) = c.utf8Size + byteCount cs
  := rfl

@[simp]
theorem byteCount_append (cs ds : List Char) :
  byteCount (cs ++ ds) = byteCount cs + byteCount ds
  := by
  induction cs with
  | nil => simp
  | cons c cs ih =>
    rw [List.cons_append, byteCount_cons, ih, byteCount_cons]
    omega

theorem cutAtByte?_eq_some_iff {n : Nat} {cs front rest : List Char} :
  cutAtByte? n cs = some (front, rest) ↔ cs = front ++ rest ∧ byteCount front = n
  := by
  fun_induction cutAtByte? n cs generalizing front with
  | case1 cs =>
    constructor
    · intro h
      obtain ⟨rfl, rfl⟩ := Prod.mk.inj (Option.some.inj h)
      exact ⟨rfl, rfl⟩
    · rintro ⟨rfl, hfront⟩
      cases front with
      | nil => rfl
      | cons c front =>
        have := c.utf8Size_pos
        rw [byteCount_cons] at hfront
        omega
  | case2 n =>
    simp only [reduceCtorEq, false_iff]
    rintro ⟨h, hfront⟩
    obtain ⟨rfl, -⟩ := List.append_eq_nil_iff.1 h.symm
    cases hfront
  | case3 n c cs fits ih =>
    rw [Option.map_eq_some_iff]
    constructor
    · rintro ⟨⟨front, rest⟩, hcut, heq⟩
      obtain ⟨rfl, rfl⟩ := Prod.mk.inj heq
      obtain ⟨rfl, hfront⟩ := ih.1 hcut
      refine ⟨rfl, ?_⟩
      rw [byteCount_cons]
      omega
    · rintro ⟨h, hfront⟩
      cases front with
      | nil => cases hfront
      | cons d front =>
        obtain ⟨rfl, rfl⟩ := List.cons.inj h
        rw [byteCount_cons] at hfront
        exact ⟨(front, rest), ih.2 ⟨rfl, by omega⟩, rfl⟩
  | case4 n c cs large =>
    simp only [reduceCtorEq, false_iff]
    rintro ⟨h, hfront⟩
    cases front with
    | nil => cases hfront
    | cons d front =>
      obtain ⟨rfl, rfl⟩ := List.cons.inj h
      rw [byteCount_cons] at hfront
      omega

theorem isUpper_iff {c : Char} :
  c.isUpper = true ↔ 65 ≤ c.toNat ∧ c.toNat ≤ 90
  := decide_eq_true_iff

/-- Only the capital letters of ASCII have another small letter. -/
theorem toNat_toLower (c : Char) :
  c.toLower.toNat = if c.isUpper = true then c.toNat + 32 else c.toNat
  := by
  have hletter : c.isUpper = true ↔ c.val ≥ 'A'.val ∧ c.val ≤ 'Z'.val := decide_eq_true_iff
  by_cases letter : c.val ≥ 'A'.val ∧ c.val ≤ 'Z'.val
  · have hlower : c.toLower.val = c.val + ('a'.val - 'A'.val) := congrArg Char.val (dif_pos letter)
    have hsmall := (isUpper_iff.1 (hletter.2 letter)).2
    rw [if_pos (hletter.2 letter)]
    change c.toLower.val.toNat = c.val.toNat + 32
    rw [hlower, UInt32.toNat_add]
    apply Nat.mod_eq_of_lt
    change c.toNat + 32 < 2 ^ 32
    omega
  · have hlower : c.toLower = c := dif_neg letter
    rw [if_neg (letter ∘ hletter.1), hlower]

/-- Letters of either case take up one byte. -/
theorem utf8Size_toLower (c : Char) :
  c.toLower.utf8Size = c.utf8Size
  := by
  have single {d : Char} (h : d.toNat ≤ 127) : d.utf8Size = 1 :=
    Char.utf8Size_eq_one_iff.2 (UInt32.le_iff_toNat_le.2 h)
  have hlower := toNat_toLower c
  by_cases hupper : c.isUpper = true
  · have hsmall := (isUpper_iff.1 hupper).2
    rw [if_pos hupper] at hlower
    rw [single (by omega), single (by omega)]
  · rw [if_neg hupper, Char.toNat_inj] at hlower
    rw [hlower]

theorem byteCount_eq_of_equalIgnoringCase {cs ds : List Char}
    (h : equalIgnoringCase cs ds = true) :
  byteCount cs = byteCount ds
  := by
  have lower (es : List Char) : byteCount (es.map Char.toLower) = byteCount es := by
    induction es with
    | nil => rfl
    | cons e es ih => rw [List.map_cons, byteCount_cons, byteCount_cons, utf8Size_toLower, ih]
  rw [← lower cs, beq_iff_eq.1 h, lower]

theorem stripPrefixIgnoringCase?_eq_some_iff {start cs rest : List Char} :
  stripPrefixIgnoringCase? start cs = some rest
    ↔ ∃ front, cs = front ++ rest ∧ equalIgnoringCase front start = true
  := by
  rw [stripPrefixIgnoringCase?]
  constructor
  · intro h
    split at h
    · rename_i front rest' hcut
      obtain ⟨same, heq⟩ := Option.ite_none_right_eq_some.1 h
      obtain rfl := Option.some.inj heq
      exact ⟨front, (cutAtByte?_eq_some_iff.1 hcut).1, same⟩
    · cases h
  · rintro ⟨front, hcs, same⟩
    -- the cut falls behind `front`, since letters of either case take up the same bytes
    have hcut := cutAtByte?_eq_some_iff.2 ⟨hcs, byteCount_eq_of_equalIgnoringCase same⟩
    simp only [hcut, same, if_true]

/-- Whether `part` stands somewhere in a text. -/
def hasPart (part : List Char) : List Char → Bool
  | [] => part.isEmpty
  | c :: cs => part.isPrefixOf (c :: cs) || hasPart part cs

/-! ### The same on strings -/

/-- What follows `start` in a string that begins with it. -/
def after? (start s : String) : Option String :=
  (stripPrefix? start.toList s.toList).map .ofList

/-- What precedes `tail` in a string that ends with it. -/
def before? (tail s : String) : Option String :=
  (stripSuffix? tail.toList s.toList).map .ofList

theorem before?_eq_some_iff {tail s front : String} :
  before? tail s = some front ↔ s = front ++ tail
  := by
  rw [before?, Option.map_eq_some_iff]
  simp only [stripSuffix?_eq_some_iff]
  constructor
  · rintro ⟨cs, hcs, rfl⟩
    rw [← String.toList_inj, hcs, String.toList_append, String.toList_ofList]
  · rintro rfl
    exact ⟨front.toList, String.toList_append, String.ofList_toList⟩

/-- What follows `start` in a string that begins with it but for the case of ASCII
letters. -/
def afterIgnoringCase? (start s : String) : Option String :=
  (stripPrefixIgnoringCase? start.toList s.toList).map .ofList

theorem afterIgnoringCase?_eq_some_iff {start s rest : String} :
  afterIgnoringCase? start s = some rest
    ↔ ∃ front : String, s = front ++ rest ∧ equalIgnoringCase front.toList start.toList = true
  := by
  rw [afterIgnoringCase?, Option.map_eq_some_iff]
  simp only [stripPrefixIgnoringCase?_eq_some_iff]
  constructor
  · rintro ⟨cs, ⟨front, hs, hfront⟩, rfl⟩
    refine ⟨.ofList front, ?_, ?_⟩
    · rw [← String.toList_inj, hs, String.toList_append, String.toList_ofList,
        String.toList_ofList]
    · rw [String.toList_ofList]
      exact hfront
  · rintro ⟨front, rfl, hfront⟩
    exact ⟨rest.toList, ⟨front.toList, String.toList_append, hfront⟩, String.ofList_toList⟩

/-- Whether a string begins with `start`. -/
def beginsWith (start s : String) : Bool := (after? start s).isSome

/-- Whether a string ends with `tail`. -/
def endsWith (tail s : String) : Bool := (before? tail s).isSome

/-- Whether `part` stands somewhere in a string. -/
def contains (part s : String) : Bool := hasPart part.toList s.toList

/-! ### Pieces -/

/-- What precedes the first comma of a text. -/
def firstEntry (cs : List Char) : List Char := cs.takeWhile (· != ',')

/-- The pieces of a text between the occurrences of a character. -/
def splitAt (mark : Char) : List Char → List (List Char)
  | [] => [[]]
  | c :: cs =>
    if c = mark then [] :: splitAt mark cs
    else match splitAt mark cs with
      | [] => [[c]]
      | piece :: pieces => (c :: piece) :: pieces

/-- The pieces of a text between the occurrences of a mark of two characters. -/
def splitAtPair (a b : Char) : List Char → List (List Char)
  | [] => [[]]
  | [c] => [[c]]
  | c :: d :: cs =>
    if c = a ∧ d = b then [] :: splitAtPair a b cs
    else (splitAtPair a b (d :: cs)).modifyHead (c :: ·)

/-- A text with another one in the place of each mark of two characters. -/
def replacePair (a b : Char) (new : List Char) : List Char → List Char
  | [] => []
  | [c] => [c]
  | c :: d :: cs =>
    if c = a ∧ d = b then new ++ replacePair a b new cs
    else c :: replacePair a b new (d :: cs)

variable {a b c : Char} {cs : List Char}

theorem splitAtPair_cons (h : ¬(c = a ∧ cs.head? = some b)) :
  splitAtPair a b (c :: cs) = (splitAtPair a b cs).modifyHead (c :: ·)
  := by
  cases cs with
  | nil => rfl
  | cons d cs =>
    rw [splitAtPair, if_neg]
    simpa using h

theorem splitAtPair_ne_nil (a b : Char) (cs : List Char) :
  splitAtPair a b cs ≠ []
  := by
  fun_induction splitAtPair a b cs with
  | case1 => simp
  | case2 c => simp
  | case3 c d cs mark ih => simp
  | case4 c d cs other ih => simpa using ih

theorem headD_splitAtPair_cons (h : ¬(c = a ∧ cs.head? = some b)) :
  (splitAtPair a b (c :: cs)).headD [] = c :: (splitAtPair a b cs).headD []
  := by
  obtain ⟨piece, rest, hpieces⟩ := List.exists_cons_of_ne_nil (splitAtPair_ne_nil a b cs)
  rw [splitAtPair_cons h, hpieces, List.modifyHead_cons, List.headD_cons, List.headD_cons]

/-- The first piece of a text begins with the text, unless it is empty. -/
theorem head?_of_headD_splitAtPair (h : ((splitAtPair a b cs).headD []).head? = some c) :
  cs.head? = some c
  := by
  fun_cases splitAtPair a b cs with
  | case1 => exact h
  | case2 d => exact h
  | case3 d e cs mark =>
    rw [splitAtPair, if_pos mark] at h
    cases h
  | case4 d e cs other =>
    rw [headD_splitAtPair_cons (by simpa using other)] at h
    exact h

theorem replacePair_cons {new : List Char} (h : ¬(c = a ∧ cs.head? = some b)) :
  replacePair a b new (c :: cs) = c :: replacePair a b new cs
  := by
  cases cs with
  | nil => rfl
  | cons d cs =>
    rw [replacePair, if_neg]
    simpa using h

end NativeApi.Text
