import Reckon.Text.CodePoints

/-! White space, as Unicode's property `White_Space` defines it. -/

namespace Reckon

def blankCodePoints : CodePoints :=
  [ (0x9, 0xd), (0x20, 0x20), (0x85, 0x85), (0xa0, 0xa0), (0x1680, 0x1680), (0x2000, 0x200a),
    (0x2028, 0x2029), (0x202f, 0x202f), (0x205f, 0x205f), (0x3000, 0x3000)]

def isBlank (character : Char) : Bool := blankCodePoints.has character.toNat

end Reckon
