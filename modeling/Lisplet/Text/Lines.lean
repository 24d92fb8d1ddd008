namespace Lisplet

/-! Bytes that should be text: a whole file, or a stream taken line by line. -/

/-- A line with the newline that ends it, if any; `none` if its bytes are no text. -/
abbrev Line := Option String

namespace Line

def split : List UInt8 → List (List UInt8)
  | [] => []
  | byte :: rest =>
      if byte = 10 then [byte] :: split rest
      else
        match split rest with
        | [] => [[byte]]
        | line :: lines => (byte :: line) :: lines

def ofBytes (bytes : List UInt8) : Line :=
  String.fromUTF8? (ByteArray.mk bytes.toArray)

def allOfBytes (bytes : List UInt8) : List Line :=
  (split bytes).map ofBytes

end Line

end Lisplet
