/-! Powers, and the integers that fit a number of bits. -/
namespace BotTypings.Decimal

def unsignedEnd (bits : Nat) : Nat := Nat.pow 2 bits

def unsignedMax (bits : Nat) : Int := (unsignedEnd bits : Int) - 1

def signedMin (bits : Nat) : Int := -(unsignedEnd (bits - 1) : Int)

def signedMax (bits : Nat) : Int := (unsignedEnd (bits - 1) : Int) - 1

end BotTypings.Decimal
