import ZoneKeeper.Text

namespace ZoneKeeper.Idna.Punycode

/-- No number may pass what 31 bits hold. -/
def limit : Nat := 0x7FFFFFFF

def digit? (u : CodeUnit) : Option Nat :=
  if u.isLower then some (u.toNat - 0x61)
  else if u.isDigit then some (u.toNat - 0x30 + 26)
  else none

/-- A digit below the threshold of its place is the last one of a number. -/
def threshold (place bias : Nat) : Nat :=
  if place ≤ bias then 1 else if bias + 26 ≤ place then 26 else place - bias

/-- Scales a distance down, counting places; each round divides by 35. -/
def scale : Nat → Nat → Nat → Nat
  | 0, delta, place => place + 36 * delta / (delta + 38)
  | fuel + 1, delta, place =>
    if 455 < delta then scale fuel (delta / 35) (place + 36)
    else place + 36 * delta / (delta + 38)

/-- Thresholds follow the size of the last distance. The first one is over all of ASCII and says
little about the next. -/
def adapt (distance count : Nat) (first : Bool) : Nat :=
  let delta := if first then distance / 700 else distance / 2
  scale delta (delta + delta / count) 0

/-- The code points so far, and the number being read: where it started, its value, and the place
and weight of its next digit. -/
structure State where
  out : List Nat
  code : Nat
  bias : Nat
  start : Nat
  value : Nat
  place : Nat
  weight : Nat

def State.put (s : State) : Option State :=
  let count := s.out.length + 1
  let code := s.code + s.value / count
  let i := s.value % count
  if limit < code then none
  else some ⟨s.out.take i ++ code :: s.out.drop i, code,
    adapt (s.value - s.start) count (s.start = 0), i + 1, i + 1, 36, 1⟩

def State.next (s : State) (u : CodeUnit) : Option State := do
  let d ← digit? u
  let value := s.value + d * s.weight
  let t := threshold s.place s.bias
  let weight := s.weight * (36 - t)
  if limit < value then none
  else if d < t then State.put { s with value := value }
  else if limit < weight then none
  else some { s with value := value, place := s.place + 36, weight := weight }

/-- The code points of a label without its mark. What is in ASCII comes first and as it is. Behind
the last hyphen each number tells how far to go on, over the code points and the places where one
could stand, to the next one to insert; it may not break off. -/
def decode (t : Text) : Option (List Nat) := do
  let (basic, rest) := Text.cutLast 0x2D t
  let out := (basic.getD []).map UInt16.toNat
  let s ← rest.foldlM State.next ⟨out, 0x80, 72, 0, 0, 36, 1⟩
  if s.place = 36 then some s.out else none

def digit (d : Nat) : CodeUnit := if d < 26 then (0x61 + d).toUInt16 else (0x30 + (d - 26)).toUInt16

theorem threshold_bounds (place bias : Nat) :
    0 < threshold place bias ∧ threshold place bias ≤ 26 := by
  unfold threshold
  split
  · omega
  · split <;> omega

def digits (bias place n : Nat) : Text :=
  let t := threshold place bias
  if n < t then [digit n]
  else digit (t + (n - t) % (36 - t)) :: digits bias (place + 36) ((n - t) / (36 - t))
termination_by n
decreasing_by
  have ht := threshold_bounds place bias
  have hdiv := Nat.div_le_self (n - threshold place bias) (36 - threshold place bias)
  omega

/-- The numbers so far, how far it is from the last place that was told, the bias of the next
number, how many code points are told, and the code point whose places come next. -/
structure Writer where
  out : Text
  distance : Nat
  bias : Nat
  count : Nat
  code : Nat

/-- Goes past a code point of the label, and tells of it if its turn has come. -/
def Writer.pass (basic : Nat) (w : Writer) (c : Nat) : Option Writer :=
  if c = w.code then
    some ⟨w.out ++ digits w.bias 36 w.distance, 0,
      adapt w.distance (w.count + 1) (w.count = basic), w.count + 1, w.code⟩
  else if c < w.code then
    if w.distance < limit then some { w with distance := w.distance + 1 } else none
  else some w

/-- Goes on to another code point, over all the places in the label where one between could
stand. -/
def Writer.turn (label : List Nat) (basic : Nat) (w : Writer) (code : Nat) : Option Writer := do
  let distance := w.distance + (code - w.code) * (w.count + 1)
  if limit < distance then none
  else
    let w ← label.foldlM (Writer.pass basic) { w with distance := distance, code := code }
    return { w with distance := w.distance + 1, code := code + 1 }

def insertNew (c : Nat) : List Nat → List Nat
  | [] => [c]
  | d :: rest =>
    if c < d then c :: d :: rest else if c = d then d :: rest else d :: insertNew c rest

def encode? (label : List Nat) : Option Text := do
  let basic := label.filter (· < 0x80)
  let others := (label.filter (0x80 ≤ ·)).foldr insertNew []
  let w ← others.foldlM (Writer.turn label basic.length) ⟨[], 0, 72, basic.length, 0x80⟩
  return basic.map Nat.toUInt16 ++ (if basic = [] then [] else [0x2D]) ++ w.out

end ZoneKeeper.Idna.Punycode
