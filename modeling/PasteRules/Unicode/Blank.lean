import PasteRules.Unicode.Flips

/-! White space: the category Zs and the bidirectional types B, S and WS of Unicode 14. -/
namespace PasteRules.Unicode

set_option maxRecDepth 8000 in
def blankFlips : Flips := ⟨#[
  9, 14, 28, 33, 133, 134, 160, 161, 5760, 5761, 8192, 8203, 8232, 8234, 8239, 8240, 8287, 8288,
  12288, 12289]⟩

def isBlank (c : Char) : Bool := blankFlips.contains c.toNat

end PasteRules.Unicode
