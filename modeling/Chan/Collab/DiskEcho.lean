import Chan.Lib.TtlRing
import Chan.Lib.Utf

namespace Chan
open Utf

abbrev Instant := Nat

def millis (n : Nat) : Nat := n * 1000000

def elapsed (since now : Instant) : Nat := now - since

lemma elapsed_mono (h : t ≤ u) : elapsed since t ≤ elapsed since u :=
  Nat.sub_le_sub_right h since

def diskEchoWriteTtl : Nat := millis 60000

def diskEchoAdoptTtl : Nat := millis 1500

def diskEchoCap : Nat := 16

inductive EchoOrigin
  | written
  | adopted
  deriving DecidableEq

/-- FNV-1a over the UTF-8 bytes. -/
def contentHash (text : Text) : UInt64 :=
  (bytes text).foldl (fun hash byte => (hash ^^^ byte.toUInt64) * 0x100000001b3)
    0xcbf29ce484222325

structure EchoEntry where
  hash : UInt64
  origin : EchoOrigin
  at_ : Instant
  deriving DecidableEq

structure DiskEchoRing where
  inner : List EchoEntry
  writeTtl : Nat
  adoptTtl : Nat
  deriving DecidableEq

namespace DiskEchoRing

def withTtls (writeTtl adoptTtl : Nat) : DiskEchoRing := ⟨[], writeTtl, adoptTtl⟩

def new : DiskEchoRing := withTtls diskEchoWriteTtl diskEchoAdoptTtl

def ttl (r : DiskEchoRing) : EchoOrigin → Nat
  | .written => r.writeTtl
  | .adopted => r.adoptTtl

def alive (r : DiskEchoRing) (now : Instant) (e : EchoEntry) : Bool :=
  elapsed e.at_ now ≤ r.ttl e.origin

def evict (r : DiskEchoRing) (now : Instant) : DiskEchoRing :=
  { r with inner := TtlRing.evict r.alive now r.inner }

def noteAt (r : DiskEchoRing) (hash : UInt64) (origin : EchoOrigin) (now : Instant) :
    DiskEchoRing :=
  { r with inner := TtlRing.note r.alive diskEchoCap now ⟨hash, origin, now⟩ r.inner }

def noteWritten (r : DiskEchoRing) (hash : UInt64) (now : Instant) : DiskEchoRing :=
  r.noteAt hash .written now

def noteAdopted (r : DiskEchoRing) (hash : UInt64) (now : Instant) : DiskEchoRing :=
  r.noteAt hash .adopted now

def containsAt (r : DiskEchoRing) (hash : UInt64) (now : Instant) : Bool :=
  (r.evict now).inner.any fun e => e.hash == hash

def anyRecentWriteAt (r : DiskEchoRing) (now : Instant) : Bool :=
  (r.evict now).inner.any fun e => e.origin == .written

end DiskEchoRing

end Chan
