/-! # Base58

The bytes as one big-endian number in base 58, with a `1` for each leading zero byte.
-/

namespace SwapDesk

def base58Alphabet : List Char :=
  "123456789ABCDEFGHJKLMNPQRSTUVWXYZabcdefghijkmnopqrstuvwxyz".toList

/-- The base-58 digits of a number, most significant first; none for zero. -/
def base58Digits (n : Nat) : List Char :=
  if n = 0 then [] else base58Digits (n / 58) ++ [base58Alphabet.getD (n % 58) '1']
termination_by n
decreasing_by omega

def base58 (bytes : List UInt8) : String :=
  let zeros := (bytes.takeWhile (· == 0)).length
  let n := bytes.foldl (fun n b => 256 * n + b.toNat) 0
  String.ofList (List.replicate zeros '1' ++ base58Digits n)

end SwapDesk
