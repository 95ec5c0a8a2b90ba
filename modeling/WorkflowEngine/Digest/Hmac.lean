/-
This file computes keyed hashes of byte strings.
-/

import WorkflowEngine.Digest.Sha256

namespace WorkflowEngine.Digest.Hmac

open Sha256

/-- The hash function works on blocks of this many bytes. -/
def blockSize : Nat := 64

/-- A key longer than a block is hashed; every key is filled up with zeros. -/
def blockKey (key : List UInt8) : List UInt8 :=
  let short := if blockSize < key.length then digest key else key
  short ++ List.replicate (blockSize - short.length) 0

def masked (mask : UInt8) (bytes : List UInt8) : List UInt8 :=
  bytes.map fun byte => byte ^^^ mask

def authenticator (key message : List UInt8) : List UInt8 :=
  let block := blockKey key
  digest (masked 0x5C block ++ digest (masked 0x36 block ++ message))

theorem authenticatorLength (key message : List UInt8) : (authenticator key message).length = 32 :=
  digestLength _

end WorkflowEngine.Digest.Hmac
