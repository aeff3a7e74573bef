/-!
# Checksums

The checksum of a file in an archive is the remainder of a division of
polynomials over the field of two elements, whose coefficients are the bits
of the file. The word that holds the remainder has its lowest coefficient in
its highest bit.
-/

namespace ChatImport

namespace Checksum

/-- The polynomial by which is divided. -/
def divisor : UInt32 := 0xEDB88320

/-- The word after one bit more. -/
def shifted (word : UInt32) : UInt32 :=
  if word &&& 1 == 1 then (word >>> 1) ^^^ divisor else word >>> 1

/-- The word after an octet more. -/
def step (word : UInt32) (octet : UInt8) : UInt32 :=
  let mixed := word ^^^ octet.toUInt32
  shifted (shifted (shifted (shifted (shifted (shifted (shifted (shifted mixed)))))))

end Checksum

/-- The checksum of octets. -/
def checksum (octets : ByteArray) : UInt32 :=
  (octets.foldl Checksum.step 0xFFFFFFFF) ^^^ 0xFFFFFFFF

end ChatImport
