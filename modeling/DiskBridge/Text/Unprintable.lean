import DiskBridge.Text.Extending
import DiskBridge.Text.Unassigned

/-!
# Unprintable characters

Which characters a quoted text shows by their code point: those that show nothing by themselves,
those that extend the character before them unless they are letters, and code points that are no
character.
-/

namespace DiskBridge

namespace CodePoints

/-- From `80` up, what shows nothing by itself: controls (Cc), format characters (Cf), separators
(Zs, Zl, Zp), private use (Co), and characters that are ignored by default
(Default_Ignorable_Code_Point), among them the fillers, which are letters. -/
def blank : CodePoints :=
  [(0x80, 0xa0), (0xad, 0xad), (0x34f, 0x34f), (0x600, 0x605), (0x61c, 0x61c), (0x6dd, 0x6dd),
    (0x70f, 0x70f), (0x890, 0x891), (0x8e2, 0x8e2), (0x115f, 0x1160), (0x1680, 0x1680),
    (0x17b4, 0x17b5), (0x180b, 0x180f), (0x2000, 0x200f), (0x2028, 0x202f), (0x205f, 0x206f),
    (0x3000, 0x3000), (0x3164, 0x3164), (0xe000, 0xf8ff), (0xfe00, 0xfe0f), (0xfeff, 0xfeff),
    (0xffa0, 0xffa0), (0xfff0, 0xfffb), (0x110bd, 0x110bd), (0x110cd, 0x110cd), (0x13430, 0x1343f),
    (0x1bca0, 0x1bca3), (0x1d173, 0x1d17a), (0xe0000, 0xe0fff), (0xf0000, 0xffffd),
    (0x100000, 0x10fffd)]

/-- The letters among the extending characters, the halfwidth sound marks: each takes up a place of
its own and is read by itself. -/
def soundMarks : CodePoints := [(0xff9e, 0xff9f)]

end CodePoints

/-- Whether a character is shown by its code point. -/
def isUnprintable (c : Char) : Bool :=
  let code := c.toNat
  if code < 0x20 || code = 0x7f then true
  else if code < 0x80 then false
  else CodePoints.blank.contains code
    || CodePoints.extending.contains code && !CodePoints.soundMarks.contains code
    || CodePoints.unassigned.contains code

end DiskBridge
