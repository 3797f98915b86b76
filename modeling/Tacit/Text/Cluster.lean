import Tacit.Text.Basic
import Tacit.Text.ClusterData
import Tacit.Text.Normal

/-!
# Grapheme clusters

How many user-perceived characters a text has: a character with its marks counts once, and so do
a Hangul syllable in letters, a pair of regional indicators and pictographs tied by joiners.
-/

namespace Tacit.Text

/-- What matters of a character for the end of a cluster. -/
inductive Break where
  | return | feed | control | extend | joiner | regional | prepend | spacing
  | lead | vowel | trail | openSyllable | closedSyllable | pictograph | other
deriving DecidableEq

/-- The break class of a code point. The replacement character stands alone, as controls do. -/
def breakClass (n : Nat) : Break :=
  if n = 13 then .return
  else if n = 10 then .feed
  else if n < 0x20 || n = 0x7F || n = 0xFFFD then .control
  else if n < 0x80 then .other
  else if n = 0x200D then .joiner
  else if 0x1F1E6 ≤ n && n ≤ 0x1F1FF then .regional
  else if isSyllable n then
    if (n - syllableBase) % 28 = 0 then .openSyllable else .closedSyllable
  else if (0x1100 ≤ n && n ≤ 0x115F) || (0xA960 ≤ n && n ≤ 0xA97C) then .lead
  else if (0x1160 ≤ n && n ≤ 0x11A7) || (0xD7B0 ≤ n && n ≤ 0xD7C6) then .vowel
  else if (0x11A8 ≤ n && n ≤ 0x11FF) || (0xD7CB ≤ n && n ≤ 0xD7FB) then .trail
  else if breakExtend.contains n then .extend
  else if breakControl.contains n then .control
  else if breakSpacing.contains n then .spacing
  else if breakPrepend.contains n then .prepend
  else if breakPictograph.contains n then .pictograph
  else .other

/-- The break class of a rune. A stray byte stands alone. -/
def Break.ofRune : Rune → Break
  | .char c => breakClass c.toNat
  | .stray _ => .control

namespace Break

/-- How many of the class stand at the start. -/
def run (b : Break) (bs : List Break) : Nat := (bs.takeWhile (· = b)).length

/-- How many marks and joiners stand at the start. -/
def marks (bs : List Break) : Nat :=
  (bs.takeWhile fun b => b = .extend || b = .joiner || b = .spacing).length

/-- How many marks and joiners stand at the start, where a joiner takes in a pictograph. -/
def tiedMarks : List Break → Nat
  | .joiner :: .pictograph :: bs => 2 + tiedMarks bs
  | .joiner :: bs | .extend :: bs | .spacing :: bs => 1 + tiedMarks bs
  | _ => 0

/-- How many Hangul letters and syllables make up one syllable at the start. Trail letters do not
follow lead letters and a syllable without a trail if no vowel stands between. -/
def syllable (bs : List Break) : Nat :=
  let leads := run .lead bs
  match bs.drop leads with
  | .closedSyllable :: rest => leads + 1 + run .trail rest
  | .openSyllable :: rest =>
    let vowels := run .vowel rest
    if leads = 0 || 0 < vowels then leads + 1 + vowels + run .trail (rest.drop vowels)
    else leads + 1
  | rest =>
    let vowels := run .vowel rest
    if leads = 0 || 0 < vowels then leads + vowels + run .trail (rest.drop vowels)
    else leads

/-- The length of the cluster at the start, if none of its characters extends the next one. -/
def plainCluster : List Break → Nat
  | [] | .return :: _ | .feed :: _ | .control :: _ | .prepend :: _ => 0
  | .joiner :: bs => 1 + marks bs
  | .pictograph :: bs => 1 + tiedMarks bs
  | .regional :: .regional :: bs => 2 + tiedMarks bs
  | .regional :: bs => 1 + tiedMarks bs
  | b :: bs =>
    let n := syllable (b :: bs)
    if n = 0 then 1 + marks bs else n + tiedMarks ((b :: bs).drop n)

/-- The length of the cluster at the start of a text that is not empty. -/
def cluster : List Break → Nat
  | .return :: .feed :: _ => 2
  | bs =>
    let n := run .prepend bs
    max 1 (n + plainCluster (bs.drop n))

/-- The number of clusters. -/
def clusters : List Break → Nat
  | [] => 0
  | b :: bs => 1 + clusters (bs.drop (cluster (b :: bs) - 1))
termination_by bs => bs.length
decreasing_by simp only [List.length_drop, List.length_cons]; omega

end Break

/-- The number of clusters of a text. -/
def clusters (rs : List Rune) : Nat := Break.clusters (rs.map .ofRune)

/-- The text without its first clusters. -/
def dropClusters : (count : Nat) → List Rune → List Rune
  | 0, rs => rs
  | count + 1, rs => dropClusters count (rs.drop (Break.cluster (rs.map .ofRune)))

end Tacit.Text
