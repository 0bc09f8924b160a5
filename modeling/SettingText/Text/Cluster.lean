import SettingText.Text.Cell

/-!
Clusters: characters that are shown as one. A mark belongs to the character before it, a joiner binds
the character behind it to the one before it, and a selector makes a narrow pictograph wide.
-/

namespace SettingText.Text

/-- The code points of narrow characters that a selector shows as wide pictographs, in increasing
    ranges. -/
def pictographRanges : Array (Nat × Nat) := #[
  (0x23, 0x23), (0x2a, 0x2a), (0x30, 0x39), (0xa9, 0xa9), (0xae, 0xae), (0x203c, 0x203c),
  (0x2049, 0x2049), (0x2122, 0x2122), (0x2139, 0x2139), (0x2194, 0x2199), (0x21a9, 0x21aa),
  (0x2328, 0x2328), (0x23cf, 0x23cf), (0x23ed, 0x23ef), (0x23f1, 0x23f2), (0x23f8, 0x23fa),
  (0x24c2, 0x24c2), (0x25aa, 0x25ab), (0x25b6, 0x25b6), (0x25c0, 0x25c0), (0x25fb, 0x25fc),
  (0x2600, 0x2604), (0x260e, 0x260e), (0x2611, 0x2611), (0x2618, 0x2618), (0x261d, 0x261d),
  (0x2620, 0x2620), (0x2622, 0x2623), (0x2626, 0x2626), (0x262a, 0x262a), (0x262e, 0x262f),
  (0x2638, 0x263a), (0x2640, 0x2640), (0x2642, 0x2642), (0x265f, 0x2660), (0x2663, 0x2663),
  (0x2665, 0x2666), (0x2668, 0x2668), (0x267b, 0x267b), (0x267e, 0x267e), (0x2692, 0x2692),
  (0x2694, 0x2697), (0x2699, 0x2699), (0x269b, 0x269c), (0x26a0, 0x26a0), (0x26a7, 0x26a7),
  (0x26b0, 0x26b1), (0x26c8, 0x26c8), (0x26cf, 0x26cf), (0x26d1, 0x26d1), (0x26d3, 0x26d3),
  (0x26e9, 0x26e9), (0x26f0, 0x26f1), (0x26f4, 0x26f4), (0x26f7, 0x26f9), (0x2702, 0x2702),
  (0x2708, 0x2709), (0x270c, 0x270d), (0x270f, 0x270f), (0x2712, 0x2712), (0x2714, 0x2714),
  (0x2716, 0x2716), (0x271d, 0x271d), (0x2721, 0x2721), (0x2733, 0x2734), (0x2744, 0x2744),
  (0x2747, 0x2747), (0x2763, 0x2764), (0x27a1, 0x27a1), (0x2934, 0x2935), (0x2b05, 0x2b07),
  (0x1f170, 0x1f171), (0x1f17e, 0x1f17f), (0x1f321, 0x1f321), (0x1f324, 0x1f32c),
  (0x1f336, 0x1f336), (0x1f37d, 0x1f37d), (0x1f396, 0x1f397), (0x1f399, 0x1f39b),
  (0x1f39e, 0x1f39f), (0x1f3cb, 0x1f3ce), (0x1f3d4, 0x1f3df), (0x1f3f3, 0x1f3f3),
  (0x1f3f5, 0x1f3f5), (0x1f3f7, 0x1f3f7), (0x1f43f, 0x1f43f), (0x1f441, 0x1f441),
  (0x1f4fd, 0x1f4fd), (0x1f549, 0x1f54a), (0x1f56f, 0x1f570), (0x1f573, 0x1f579),
  (0x1f587, 0x1f587), (0x1f58a, 0x1f58d), (0x1f590, 0x1f590), (0x1f5a5, 0x1f5a5),
  (0x1f5a8, 0x1f5a8), (0x1f5b1, 0x1f5b2), (0x1f5bc, 0x1f5bc), (0x1f5c2, 0x1f5c4),
  (0x1f5d1, 0x1f5d3), (0x1f5dc, 0x1f5de), (0x1f5e1, 0x1f5e1), (0x1f5e3, 0x1f5e3),
  (0x1f5e8, 0x1f5e8), (0x1f5ef, 0x1f5ef), (0x1f5f3, 0x1f5f3), (0x1f5fa, 0x1f5fa),
  (0x1f6cb, 0x1f6cb), (0x1f6cd, 0x1f6cf), (0x1f6e0, 0x1f6e5), (0x1f6e9, 0x1f6e9),
  (0x1f6f0, 0x1f6f0), (0x1f6f3, 0x1f6f3)]

/-- The character is narrow and has the form of a wide pictograph too. -/
def widens (c : Char) : Bool := CodePoint.within pictographRanges c

/-- The cells that a selector adds to the character shown before it, if there is one. -/
def widening (last : Option Char) : Nat := if last.any widens then 1 else 0

/-- The character that binds the next one to the one before it. -/
def joiner : Char := '\u200d'

/-- The character that asks for the form of a pictograph. -/
def selector : Char := '\ufe0f'

/-- The cells of characters; `last` is the one that was shown last and that a selector may still
    widen. A joined character takes no cells. -/
def cellsAfter (last : Option Char) : List Char → Nat
  | [] => 0
  | c :: rest =>
    if c = joiner then
      match rest with
      | [] => 0
      | _ :: behind => cellsAfter last behind
    else if c = selector then widening last + cellsAfter none rest
    else
      let size := cellWidth c
      size + cellsAfter (if size = 0 then last else some c) rest

/-- The number of cells of a run of characters. -/
def cellCount (text : List Char) : Nat := cellsAfter none text

/-- Characters that are shown as one. -/
structure Cluster where
  chars : List Char
  cells : Nat
  deriving DecidableEq, Repr

def Cluster.more (cluster : Cluster) (chars : List Char) (cells : Nat) : Cluster :=
  ⟨cluster.chars ++ chars, cluster.cells + cells⟩

/-- The clusters of characters behind those that are `done`, the last one first. Marks, joiners and
    selectors with nothing before them make a cluster of their own. -/
def clustersAfter (done : List Cluster) (last : Option Char) : List Char → List Cluster
  | [] => done.reverse
  | c :: rest =>
    let size := if c = joiner || c = selector then 0 else cellWidth c
    match done with
    | [] => clustersAfter [⟨[c], size⟩] (if size = 0 then last else some c) rest
    | cluster :: before =>
      if c = joiner then
        match rest with
        | [] => clustersAfter (cluster.more [c] 0 :: before) last []
        | d :: behind => clustersAfter (cluster.more [c, d] 0 :: before) last behind
      else if c = selector then
        clustersAfter (cluster.more [c] (widening last) :: before) (last.filter (!widens ·)) rest
      else if size = 0 then clustersAfter (cluster.more [c] 0 :: before) last rest
      else clustersAfter (⟨[c], size⟩ :: done) (some c) rest

def clusters (text : List Char) : List Cluster := clustersAfter [] none text

def charsOf (clusters : List Cluster) : List Char := clusters.flatMap (·.chars)

theorem charsOf_clustersAfter (done : List Cluster) (last : Option Char) (text : List Char) :
    charsOf (clustersAfter done last text) = charsOf done.reverse ++ text := by
  fun_induction clustersAfter done last text <;>
    simp_all [charsOf, Cluster.more]

/-- Clusters hold every character of the text in its place. -/
theorem charsOf_clusters (text : List Char) : charsOf (clusters text) = text :=
  charsOf_clustersAfter [] none text

end SettingText.Text
