import VolumeDriver.Json.Scan
set_option autoImplicit false

/-! # Passing over a value

Members that a record does not know are passed over without being kept. The values may nest to any
depth, so the lists and objects that are open are a stack of `Frame`s and not calls within calls:
`skipFrom` goes on from where a value must begin, `skipWithin` from where one has just ended or a
list or an object has just been opened. -/

namespace VolumeDriver.Json

/-- A list or an object that is open. -/
inductive Frame
  | list
  | object
  deriving DecidableEq, Repr

/-- The octet that closes a `Frame`. -/
def Frame.closing : Frame → UInt8
  | .list => 0x5D
  | .object => 0x7D

/-- The `Cause` of a text that ends in a frame. -/
def Frame.unfinished : Frame → Cause
  | .list => .unfinishedList
  | .object => .unfinishedObject

/-- The `Cause` of anything else after a value in a frame than what should follow. -/
def Frame.expectedComma : Frame → Cause
  | .list => .expectedListComma
  | .object => .expectedObjectComma

/-- Passes over the key of a member and the colon after it; values in a list have neither. -/
def Frame.skipKey (frame : Frame) (s : List UInt8) : Except Fault (List UInt8) :=
  match frame with
  | .list => .ok s
  | .object =>
    match skipBlanks s with
    | [] => .error (.atNext .unfinishedObject [])
    | b :: s =>
      if b = 0x22 then
        match skipText s with
        | .error f => .error f
        | .ok s =>
          match skipBlanks s with
          | [] => .error (.atNext .unfinishedObject [])
          | c :: s => if c = 0x3A then .ok s else .error (.atNext .expectedColon (c :: s))
      else .error (.atNext .keyNotText (b :: s))

/-- Passes over a value without pieces, or opens a list or an object as a `Frame`. -/
def skipPiece (b : UInt8) (s : List UInt8) : Except Fault (Option Frame × List UInt8) :=
  if b = 0x6E then (none, ·) <$> skipWord restOfNull s
  else if b = 0x74 then (none, ·) <$> skipWord restOfTrue s
  else if b = 0x66 then (none, ·) <$> skipWord restOfFalse s
  else if b = 0x2D then (none, ·) <$> skipNumber s
  else if isDigit b then (none, ·) <$> skipNumber (b :: s)
  else if b = 0x22 then (none, ·) <$> skipText s
  else if b = 0x5B then .ok (some .list, s)
  else if b = 0x7B then .ok (some .object, s)
  else .error (.atNext .expectedValue (b :: s))

theorem length_of_skipKey {frame : Frame} {s rest : List UInt8}
    (h : frame.skipKey s = .ok rest) : rest.length ≤ s.length := by
  cases frame with
  | list => simp only [Frame.skipKey, Except.ok.injEq] at h; simp [h]
  | object =>
    simp only [Frame.skipKey] at h
    have hs := length_skipBlanks_le s
    cases hb : skipBlanks s with
    | nil => simp [hb] at h
    | cons b t =>
      simp only [hb, List.length_cons] at h hs
      split at h
      · cases ht : skipText t with
        | error f => simp [ht] at h
        | ok u =>
          simp only [ht] at h
          have := length_of_skipText ht
          have hu := length_skipBlanks_le u
          cases hc : skipBlanks u with
          | nil => simp [hc] at h
          | cons c v =>
            simp only [hc, List.length_cons] at h hu
            split at h
            · simp only [Except.ok.injEq] at h
              subst h
              omega
            · simp at h
      · simp at h

theorem map_eq_ok {ε α β : Type} {f : α → β} {x : Except ε α} {y : β} (h : f <$> x = .ok y) :
    ∃ a, x = .ok a ∧ f a = y := by
  cases x with
  | error e => simp [Functor.map, Except.map] at h
  | ok a => exact ⟨a, rfl, by simpa [Functor.map, Except.map] using h⟩

theorem length_of_skipNumber_digit {b : UInt8} {s rest : List UInt8} (hb : isDigit b = true)
    (h : skipNumber (b :: s) = .ok rest) : rest.length ≤ s.length := by
  simp only [skipNumber, hb, if_true] at h
  split at h
  · cases s with
    | nil => simp only [Except.ok.injEq] at h; simp [← h]
    | cons c t =>
      simp only at h
      split at h
      · simp at h
      · exact length_of_skipFraction h
  · have := length_of_skipFraction h
    have := length_dropWhile_le isDigit s
    omega

theorem length_of_skipPiece {b : UInt8} {s rest : List UInt8} {frame : Option Frame}
    (h : skipPiece b s = .ok (frame, rest)) : rest.length ≤ s.length := by
  simp only [skipPiece] at h
  split at h
  · obtain ⟨a, ha, he⟩ := map_eq_ok h
    cases he
    exact length_of_skipWord ha
  · split at h
    · obtain ⟨a, ha, he⟩ := map_eq_ok h
      cases he
      exact length_of_skipWord ha
    · split at h
      · obtain ⟨a, ha, he⟩ := map_eq_ok h
        cases he
        exact length_of_skipWord ha
      · split at h
        · obtain ⟨a, ha, he⟩ := map_eq_ok h
          cases he
          exact length_of_skipNumber ha
        · split at h
          · rename_i hd
            obtain ⟨a, ha, he⟩ := map_eq_ok h
            cases he
            exact length_of_skipNumber_digit hd ha
          · split at h
            · obtain ⟨a, ha, he⟩ := map_eq_ok h
              cases he
              exact length_of_skipText ha
            · split at h
              · simp_all
              · split at h
                · simp_all
                · simp at h

mutual

/-- Passes over the rest of a value whose open frames are `frames`, from where a value must begin. -/
def skipFrom (frames : List Frame) (s : List UInt8) : Except Fault (List UInt8) :=
  match _hs : skipBlanks s with
  | [] => .error (.atNext .unfinishedValue [])
  | b :: t =>
    match _hp : skipPiece b t with
    | .error f => .error f
    | .ok (none, rest) => skipWithin false frames rest
    | .ok (some frame, rest) => skipWithin true (frame :: frames) rest
termination_by (s.length, 0)
decreasing_by
  all_goals
    have hl := length_skipBlanks_le s
    simp only [_hs, List.length_cons] at hl
    have := length_of_skipPiece _hp
    exact Prod.Lex.left _ _ (by omega)

/-- Passes over the rest of a value whose open frames are `frames`, from where a value has just ended
    or, if `fresh`, where the innermost frame has just been opened. -/
def skipWithin (fresh : Bool) (frames : List Frame) (s : List UInt8) : Except Fault (List UInt8) :=
  match frames with
  | [] => .ok s
  | frame :: frames =>
    match _hs : skipBlanks s with
    | [] => .error (.atNext frame.unfinished [])
    | b :: t =>
      if b = frame.closing then skipWithin false frames t
      else if fresh then
        match _hk : frame.skipKey (b :: t) with
        | .error f => .error f
        | .ok rest => skipFrom (frame :: frames) rest
      else if b = 0x2C then
        match _hk : frame.skipKey t with
        | .error f => .error f
        | .ok rest => skipFrom (frame :: frames) rest
      else .error (.atNext frame.expectedComma (b :: t))
termination_by (s.length, 1)
decreasing_by
  all_goals
    have hl := length_skipBlanks_le s
    simp only [_hs, List.length_cons] at hl
  · exact Prod.Lex.left _ _ (by omega)
  · have := length_of_skipKey _hk
    simp only [List.length_cons] at this
    rcases Nat.lt_or_eq_of_le (Nat.le_trans this hl) with h | h
    · exact Prod.Lex.left _ _ h
    · rw [h]
      exact Prod.Lex.right _ (by decide)
  · have := length_of_skipKey _hk
    exact Prod.Lex.left _ _ (by omega)

end

/-- Passes over a value of any kind. -/
def skipValue (s : List UInt8) : Except Fault (List UInt8) :=
  skipFrom [] s

end VolumeDriver.Json
