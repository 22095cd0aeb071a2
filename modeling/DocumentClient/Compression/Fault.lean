/-
  Faults of compressed bytes — why they cannot be read.

  Each constructor is one cause; `Fault.message` holds the wording of all of them.
  Bytes that merely end too early are no fault.
-/

namespace DocumentClient.Compression

/-- Why compressed bytes cannot be read. -/
inductive Fault where
  /-- The bytes do not begin as those of the format do. -/
  | header
  | method
  | headerFlags
  | headerChecksum
  | windowSize
  /-- What was read needs a dictionary that was agreed on before. -/
  | dictionary
  | blockType
  | storedLength
  | tooManySymbols
  | lengthsOfLengths
  /-- A length is repeated before there is one, or beyond the last one. -/
  | repetition
  | noEndOfBlock
  | lengthsOfLiterals
  | lengthsOfDistances
  | literalCode
  | distanceCode
  /-- A distance leads back beyond the first byte. -/
  | distance
  | checksum
  | length
  deriving DecidableEq

/-- What is wrong, in a few words. -/
def Fault.reason : Fault → String
  | header => "incorrect header check"
  | method => "unknown compression method"
  | headerFlags => "unknown header flags set"
  | headerChecksum => "header crc mismatch"
  | windowSize => "invalid window size"
  | dictionary => "need dictionary"
  | blockType => "invalid block type"
  | storedLength => "invalid stored block lengths"
  | tooManySymbols => "too many length or distance symbols"
  | lengthsOfLengths => "invalid code lengths set"
  | repetition => "invalid bit length repeat"
  | noEndOfBlock => "invalid code -- missing end-of-block"
  | lengthsOfLiterals => "invalid literal/lengths set"
  | lengthsOfDistances => "invalid distances set"
  | literalCode => "invalid literal/length code"
  | distanceCode => "invalid distance code"
  | distance => "invalid distance too far back"
  | checksum => "incorrect data check"
  | length => "incorrect length check"

/-- The wording of a fault. -/
def Fault.message (fault : Fault) : String :=
  s!"Error -3 while decompressing data: {fault.reason}"

end DocumentClient.Compression
