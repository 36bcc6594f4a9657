/-!
# Byte strings

Keys and values of a store are byte strings, ordered bytewise. A text becomes bytes by UTF-8, and
bytes become a text when they are valid UTF-8; `displayText` shows any byte string, with a
replacement character for each part that is not valid.
-/
namespace HybridSearch

abbrev Bytes := List UInt8

namespace Bytes

def ofString (s : String) : Bytes := s.toUTF8.data.toList

def toString? (b : Bytes) : Option String := String.fromUTF8? ⟨b.toArray⟩

/-- Lexicographic order by unsigned bytes; a proper beginning comes first. -/
def order : Bytes → Bytes → Ordering
  | [], [] => .eq
  | [], _ :: _ => .lt
  | _ :: _, [] => .gt
  | x :: xs, y :: ys =>
    if x.toNat < y.toNat then .lt
    else if y.toNat < x.toNat then .gt
    else order xs ys

theorem order_self (x : Bytes) : order x x = .eq := by
  induction x with
  | nil => rfl
  | cons a t ih => simp [order, ih]

theorem eq_of_order {x y : Bytes} (h : order x y = .eq) : x = y := by
  induction x generalizing y with
  | nil => cases y <;> simp_all [order]
  | cons a t ih =>
    cases y with
    | nil => simp [order] at h
    | cons b u =>
      rw [order] at h
      split at h
      · cases h
      · split at h
        · cases h
        · next h1 h2 =>
          rw [UInt8.toNat_inj.mp (by omega : a.toNat = b.toNat), ih h]

theorem order_eq_iff {x y : Bytes} : order x y = .eq ↔ x = y :=
  ⟨eq_of_order, fun h => h ▸ order_self x⟩

theorem order_swap (x y : Bytes) : (order x y).swap = order y x := by
  induction x generalizing y with
  | nil => cases y <;> rfl
  | cons a t ih =>
    cases y with
    | nil => rfl
    | cons b u =>
      by_cases h : a.toNat < b.toNat
      · have h' : ¬b.toNat < a.toNat := by omega
        simp [order, h, h']
      · by_cases h' : b.toNat < a.toNat <;> simp [order, h, h', ih]

theorem order_lt_iff_gt {x y : Bytes} : order x y = .lt ↔ order y x = .gt := by
  rw [← order_swap x y]
  cases order x y <;> simp

theorem order_lt_trans {x y z : Bytes} (h1 : order x y = .lt) (h2 : order y z = .lt) :
    order x z = .lt := by
  induction x generalizing y z with
  | nil =>
    cases y with
    | nil => simp [order] at h1
    | cons b u => cases z with
      | nil => simp [order] at h2
      | cons c v => rfl
  | cons a t ih =>
    cases y with
    | nil => simp [order] at h1
    | cons b u =>
      cases z with
      | nil => simp [order] at h2
      | cons c v =>
        simp only [order] at h1 h2 ⊢
        split at h1
        · split at h2
          · rw [if_pos (by omega)]
          · split at h2
            · cases h2
            · rw [if_pos (by omega)]
        · split at h1
          · cases h1
          · split at h2
            · rw [if_pos (by omega)]
            · split at h2
              · cases h2
              · rw [if_neg (by omega), if_neg (by omega)]
                exact ih h1 h2

theorem order_lt_irrefl (x : Bytes) : order x x ≠ .lt := by
  rw [order_self]
  decide

def startsWith : Bytes → Bytes → Bool
  | _, [] => true
  | [], _ :: _ => false
  | x :: xs, y :: ys => x == y && startsWith xs ys

/-- The eight bytes of a word, lowest first. -/
def ofUInt64 (w : UInt64) : Bytes :=
  [w.toUInt8, (w >>> 8).toUInt8, (w >>> 16).toUInt8, (w >>> 24).toUInt8,
    (w >>> 32).toUInt8, (w >>> 40).toUInt8, (w >>> 48).toUInt8, (w >>> 56).toUInt8]

/-- The number that the bytes write in base 256, lowest first. -/
def toNat : Bytes → Nat
  | [] => 0
  | b :: bs => b.toNat + 256 * toNat bs

def hexDigit (n : Nat) : Char := if n < 10 then Char.ofNat (48 + n) else Char.ofNat (87 + n)

def hexValue? (c : Char) : Option Nat :=
  if '0' ≤ c ∧ c ≤ '9' then some (c.toNat - 48)
  else if 'a' ≤ c ∧ c ≤ 'f' then some (c.toNat - 87)
  else if 'A' ≤ c ∧ c ≤ 'F' then some (c.toNat - 55)
  else none

def hex (b : Bytes) : String :=
  String.ofList (b.flatMap fun x => [hexDigit (x.toNat / 16), hexDigit (x.toNat % 16)])

def ofHexDigits? : List Char → Option Bytes
  | [] => some []
  | [_] => none
  | a :: b :: rest => do
    let high ← hexValue? a
    let low ← hexValue? b
    return UInt8.ofNat (16 * high + low) :: (← ofHexDigits? rest)

def ofHex? (s : String) : Option Bytes := ofHexDigits? s.toList

/-- Bytes that may follow the lead byte of a longer character, as a closed range for the second
byte and the number of bytes after the lead; nothing for a byte that starts no longer character. -/
def leadShape (b : UInt8) : Option (Nat × Nat × Nat) :=
  let n := b.toNat
  if 0xc2 ≤ n ∧ n ≤ 0xdf then some (0x80, 0xbf, 1)
  else if n = 0xe0 then some (0xa0, 0xbf, 2)
  else if n = 0xed then some (0x80, 0x9f, 2)
  else if 0xe1 ≤ n ∧ n ≤ 0xef then some (0x80, 0xbf, 2)
  else if n = 0xf0 then some (0x90, 0xbf, 3)
  else if n = 0xf4 then some (0x80, 0x8f, 3)
  else if 0xf1 ≤ n ∧ n ≤ 0xf3 then some (0x80, 0xbf, 3)
  else none

/-- How many of the bytes continue a character whose second byte lies between `lo` and `hi` and
that wants `missing` more bytes. -/
def continuation (lo hi : Nat) : Nat → Bytes → Nat
  | missing + 1, b :: bs =>
    if lo ≤ b.toNat ∧ b.toNat ≤ hi then 1 + continuation 0x80 0xbf missing bs else 0
  | _, _ => 0

/-- Reads characters for as long as there is fuel; a broken beginning of a character, or a byte that
starts none, gives one replacement character. -/
def displayFrom : Nat → Bytes → List Char
  | 0, _ => []
  | _, [] => []
  | fuel + 1, b :: bs =>
    if b.toNat < 0x80 then Char.ofNat b.toNat :: displayFrom fuel bs
    else match leadShape b with
      | none => Char.ofNat 0xfffd :: displayFrom fuel bs
      | some (lo, hi, missing) =>
        let taken := continuation lo hi missing bs
        let shown := match toString? (b :: bs.take taken) with
          | some s => s.toList
          | none => [Char.ofNat 0xfffd]
        shown ++ displayFrom fuel (bs.drop taken)

def displayText (b : Bytes) : String := String.ofList (displayFrom b.length b)

end Bytes

def String.byteOrder (a b : String) : Ordering := (Bytes.ofString a).order (Bytes.ofString b)

end HybridSearch
