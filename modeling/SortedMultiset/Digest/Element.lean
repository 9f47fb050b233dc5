import SortedMultiset.BagLike
import SortedMultiset.Bag.Compare
import SortedMultiset.Digest.XXH3

/-!
# Element hashes

An element is hashed as a string of bytes, its `ByteStream`.  A text ends with a byte that occurs in no
text, and a list starts with its length, so that neither runs into what follows it.  A bag as an element
writes its content hash (`Bag.write`), so equal bags hash alike whatever their order.

How the bytes are hashed (`hashWritten`) and how the elements of a bag are hashed are arguments;
`elementHash` fills in XXH3 for the one and itself for the other.
-/

namespace SortedMultiset

/-- How a value is written as bytes. -/
class ByteStream (α : Type) where
  /-- Writes the value after the bytes so far. -/
  write : ByteArray → α → ByteArray

namespace ByteStream

/-- Writes the eight bytes of a word, least first. -/
def writeWord (out : ByteArray) (x : UInt64) : ByteArray :=
  (List.range 8).foldl (fun out i => out.push (x >>> UInt64.ofNat (8 * i)).toUInt8) out

instance : ByteStream UInt64 := ⟨writeWord⟩

instance : ByteStream Int64 := ⟨fun out x => writeWord out x.toUInt64⟩

instance : ByteStream String := ⟨fun out s => (out ++ s.toUTF8).push 0xff⟩

instance {α β : Type} [ByteStream α] [ByteStream β] : ByteStream (α × β) :=
  ⟨fun out p => write (write out p.1) p.2⟩

instance {α : Type} [ByteStream α] : ByteStream (List α) :=
  ⟨fun out xs => xs.foldl write (writeWord out (UInt64.ofNat xs.length))⟩

end ByteStream

variable {α : Type}

/-- The hash of a value that is written on its own, by a hash of bytes. -/
def hashWritten (hashBytes : ByteArray → UInt64) (write : ByteArray → α → ByteArray) (a : α) :
    UInt64 :=
  hashBytes (write ByteArray.empty a)

/-- The hash of one element. -/
def elementHash [ByteStream α] (a : α) : UInt64 := hashWritten XXH3.hash ByteStream.write a

/-- A bag as an element is its content hash, by a hash of its own elements. -/
def Bag.write (hash : α → UInt64) (out : ByteArray) (b : Bag α) : ByteArray :=
  ByteStream.writeWord out (b.digest hash)

instance [ByteStream α] : ByteStream (Bag α) := ⟨Bag.write elementHash⟩

end SortedMultiset
