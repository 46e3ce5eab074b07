import Gazette.Address.Percent
import Gazette.Text.Basic

/-! # Paths of addresses

A path is a list of segments. A segment of one dot stands for the place where it is, and one of two
dots goes back over the segment before it, unless that is the letter of a drive. -/
namespace Gazette.Address
open Gazette.Text

/-- Slashes lean either way. -/
def isSlash (c : Char) : Bool := c = '/' || c = '\\'

/-- One dot, or the percent sign with its digits. -/
def isDot (cs : List Char) : Bool := cs.map Char.toLower ∈ [['.'], ['%', '2', 'e']]

def isTwoDots (cs : List Char) : Bool :=
  (List.range cs.length).any fun n => isDot (cs.take n) && isDot (cs.drop n)

/-- A letter and a colon or a bar. -/
def isDrive : List Char → Bool
  | [letter, mark] => letter.isAlpha && (mark = ':' || mark = '|')
  | _ => false

/-- Goes back over the last segment. -/
def back : List (List Char) → List (List Char)
  | [] => []
  | s :: ss => if isDrive s then s :: ss else ss

/-- The segments behind those already passed, the latest of which comes first. Dots at the end leave
an empty segment there. -/
def walk : List (List Char) → List (List Char) → List (List Char)
  | passed, [] => passed.reverse
  | passed, [s] =>
    if isTwoDots s then ([] :: back passed).reverse
    else if isDot s then ([] :: passed).reverse
    else (s :: passed).reverse
  | passed, s :: ss =>
    if isTwoDots s then walk (back passed) ss
    else if isDot s then walk passed ss
    else walk (s :: passed) ss

theorem mem_back {s : List Char} {passed : List (List Char)} (h : s ∈ back passed) :
    s ∈ passed := by
  cases passed with
  | nil => exact h
  | cons t ts =>
    simp only [back] at h
    split at h
    · exact h
    · exact .tail _ h

/-- Walking makes no segments of its own. -/
theorem mem_walk {s : List Char} {passed ss : List (List Char)} (h : s ∈ walk passed ss) :
    s = [] ∨ s ∈ passed ∨ s ∈ ss := by
  fun_induction walk passed ss with
  | case1 => exact .inr (.inl (List.mem_reverse.1 h))
  | case2 passed t _ =>
    rcases List.mem_cons.1 (List.mem_reverse.1 h) with rfl | h
    · exact .inl rfl
    · exact .inr (.inl (mem_back h))
  | case3 passed t _ _ =>
    rcases List.mem_cons.1 (List.mem_reverse.1 h) with rfl | h
    · exact .inl rfl
    · exact .inr (.inl h)
  | case4 passed t _ _ =>
    rcases List.mem_cons.1 (List.mem_reverse.1 h) with rfl | h
    · exact .inr (.inr (.head _))
    · exact .inr (.inl h)
  | case5 passed t ts _ _ ih =>
    rcases ih h with h | h | h
    · exact .inl h
    · exact .inr (.inl (mem_back h))
    · exact .inr (.inr (.tail _ h))
  | case6 passed t ts _ _ _ ih =>
    rcases ih h with h | h | h
    · exact .inl h
    · exact .inr (.inl h)
    · exact .inr (.inr (.tail _ h))
  | case7 passed t ts _ _ _ ih =>
    rcases ih h with h | h | h
    · exact .inl h
    · rcases List.mem_cons.1 h with rfl | h
      · exact .inr (.inr (.head _))
      · exact .inr (.inl h)
    · exact .inr (.inr (.tail _ h))

/-- The path of a text, which may begin with a slash. -/
def pathOf (cs : List Char) : List Char :=
  let cs := match cs with
    | c :: rest => if isSlash c then rest else c :: rest
    | [] => []
  (walk [] ((fields isSlash cs).map Part.path.write)).flatMap ('/' :: ·)

theorem visible_pathOf {cs : List Char} {d : Char} (h : d ∈ pathOf cs) :
    0x21 ≤ d.toNat ∧ d.toNat ≤ 0x7e := by
  obtain ⟨s, hs, hd⟩ := List.mem_flatMap.1 h
  rcases List.mem_cons.1 hd with rfl | hd
  · decide
  rcases mem_walk hs with rfl | hs | hs
  · cases hd
  · cases hs
  · obtain ⟨f, _, rfl⟩ := List.mem_map.1 hs
    exact Part.visible_write hd

end Gazette.Address
