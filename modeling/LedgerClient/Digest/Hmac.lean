import LedgerClient.Digest.Sha256

namespace LedgerClient

def hmac (key message : Bytes) : Digest :=
  let block := key ++ List.replicate (64 - key.length) 0
  sha256 (block.map (· ^^^ 0x5c) ++ (sha256 (block.map (· ^^^ 0x36) ++ message)).val)

structure HmacStream where
  key : Digest
  value : Digest

namespace HmacStream

def stir (g : HmacStream) (mark : UInt8) (seed : Bytes) : HmacStream :=
  let key := hmac g.key.val (g.value.val ++ mark :: seed)
  ⟨key, hmac key.val g.value.val⟩

def ofSeed (seed : Bytes) : HmacStream :=
  let start : HmacStream :=
    ⟨⟨List.replicate 32 0, List.length_replicate⟩, ⟨List.replicate 32 1, List.length_replicate⟩⟩
  (start.stir 0 seed).stir 1 seed

def next (g : HmacStream) : Digest × HmacStream :=
  let out := hmac g.key.val g.value.val
  (out, ⟨g.key, out⟩)

def refuse (g : HmacStream) : HmacStream := g.stir 0 []

end HmacStream

end LedgerClient
