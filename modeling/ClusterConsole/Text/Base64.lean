/-!
# Base64

Three bytes are four letters of six bits each; one or two bytes at the end are filled up with `=`.
-/

namespace ClusterConsole.Text

def base64Letters : List Char :=
  "ABCDEFGHIJKLMNOPQRSTUVWXYZabcdefghijklmnopqrstuvwxyz0123456789+/".toList

def base64Letter (n : Nat) : Char := base64Letters.getD (n % 64) '='

def base64 : List UInt8 → List Char
  | a :: b :: c :: rest =>
    let n := a.toNat * 65536 + b.toNat * 256 + c.toNat
    base64Letter (n / 262144) :: base64Letter (n / 4096) :: base64Letter (n / 64) ::
      base64Letter n :: base64 rest
  | [a, b] =>
    let n := a.toNat * 65536 + b.toNat * 256
    [base64Letter (n / 262144), base64Letter (n / 4096), base64Letter (n / 64), '=']
  | [a] =>
    let n := a.toNat * 65536
    [base64Letter (n / 262144), base64Letter (n / 4096), '=', '=']
  | [] => []

example : base64 [0x75, 0x3A, 0x70] = "dTpw".toList := by decide
example : base64 [0x75, 0x3A] = "dTo=".toList := by decide
example : base64 [0xFF] = "/w==".toList := by decide

end ClusterConsole.Text
