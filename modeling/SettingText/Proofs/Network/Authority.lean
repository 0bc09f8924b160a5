import SettingText.Network.Uri
import SettingText.Proofs.Except
import SettingText.Proofs.Text.Run

/-!
Which authorities a reference may have. The checks on brackets, on the address between them and on the
port are told by what the authority is made of.
-/

namespace SettingText.Network

namespace Uri

variable {mark : Char} {cs front rest host authority : List Char}

end Uri

end SettingText.Network
