import Chan.Lib.Utf

namespace Chan
open Utf

def foldCrlf : Text → Text
  | '\r' :: '\n' :: t => '\n' :: foldCrlf t
  | c :: t => c :: foldCrlf t
  | [] => []

/-- CRLF and lone CR become LF; a text without CR is left as it is. -/
def normalizeLf (text : Text) : Text :=
  if '\r' ∈ text then (foldCrlf text).map fun c => if c = '\r' then '\n' else c else text

lemma normalizeLf_of_not_mem (h : '\r' ∉ t) : normalizeLf t = t := if_neg h

@[simp] lemma not_mem_normalizeLf : '\r' ∉ normalizeLf t := by
  intro h
  rw [normalizeLf] at h
  split at h
  · obtain ⟨c, _, hc⟩ := List.mem_map.1 h
    split at hc
    · exact absurd hc (by decide)
    · contradiction
  · contradiction

@[simp] lemma normalizeLf_idem : normalizeLf (normalizeLf t) = normalizeLf t :=
  normalizeLf_of_not_mem not_mem_normalizeLf

def scalarMergeMaxChangedScalars : Nat := 256 * 1024

def encodeScalarLines (text : Text) : Text :=
  text.flatMap fun c => List.leftpad 6 '0' (Nat.toDigits 16 c.toNat) ++ ['\n']

def lines : Text → List Text
  | [] => []
  | '\n' :: t => [] :: lines t
  | '\r' :: '\n' :: t => [] :: lines t
  | c :: t =>
    match lines t with
    | [] => [[c]]
    | line :: rest => (c :: line) :: rest

def hexDigit (c : Char) : Option Nat :=
  if '0' ≤ c ∧ c ≤ '9' then some (c.toNat - '0'.toNat)
  else if 'a' ≤ c ∧ c ≤ 'f' then some (c.toNat - 'a'.toNat + 10)
  else if 'A' ≤ c ∧ c ≤ 'F' then some (c.toNat - 'A'.toNat + 10)
  else none

def hexValue (digits : Text) : Option Nat :=
  digits.foldlM (fun n c => (hexDigit c).map (n * 16 + ·)) 0

def fromStrRadix16 (token : Text) : Option Nat :=
  let digits := match token with
    | '+' :: rest => rest
    | _ => token
  if digits = [] then none
  else (hexValue digits).bind fun n => if n < 2 ^ 32 then some n else none

def charFromU32 (n : Nat) : Option Char :=
  if h : n.isValidChar then some (Char.ofNatAux n h) else none

def decodeScalarLines (encoded : Text) : Option Text :=
  if encoded ≠ [] ∧ encoded.getLast? ≠ some '\n' then none
  else
    (lines encoded).mapM fun token =>
      if utf8Len token ≠ 6 then none else (fromStrRadix16 token).bind charFromU32

def sharedPrefix (a b c : Text) : Nat :=
  ((a.zip (b.zip c)).takeWhile fun p => p.1 == p.2.1 && p.1 == p.2.2).length

/-- Merge an external text with the live one from their last durable ancestor: first by lines
with `diffy`, then by single scalars inside the span the three texts do not share. -/
def mergeTextSnapshots (diffy : Text → Text → Text → Option Text)
    (ancestor authority disk : Text) : Option Text :=
  if authority = disk then some authority
  else if ancestor = authority then some disk
  else if ancestor = disk then some authority
  else match diffy ancestor authority disk with
  | some merged => some merged
  | none =>
    -- The source counts the shared ends in bytes; they end at the same scalar in all three texts.
    let front := sharedPrefix ancestor authority disk
    let ancestorTail := ancestor.drop front
    let authorityTail := authority.drop front
    let diskTail := disk.drop front
    let back := sharedPrefix ancestorTail.reverse authorityTail.reverse diskTail.reverse
    let ancestorCore := ancestorTail.take (ancestorTail.length - back)
    let authorityCore := authorityTail.take (authorityTail.length - back)
    let diskCore := diskTail.take (diskTail.length - back)
    if scalarMergeMaxChangedScalars <
        ancestorCore.length + authorityCore.length + diskCore.length then none
    else
      (diffy (encodeScalarLines ancestorCore) (encodeScalarLines authorityCore)
        (encodeScalarLines diskCore)).bind fun encoded =>
      (decodeScalarLines encoded).map fun core =>
        ancestor.take front ++ core ++ ancestorTail.drop (ancestorTail.length - back)

end Chan
