import Attribution.Text.Blank
import Attribution.Text.LetterCase
import Attribution.Text.Split

/-!
Signatures of licenses: phrases that a license text holds, and phrases that rule the license out.
Texts are compared in a normal form, so that layout, quotes and letter case do not count.
-/

namespace Attribution.License

open Text

/-- The quotes that the normal form drops. -/
def isDroppedQuote (c : Char) : Bool :=
  c = '"' || c = '\'' || c = '`' || c = '“' || c = '”' || c = '‘' || c = '’'

/-- A text in lower case, without quotes, with one space between words and none around. -/
def normalize (s : List Char) : List Char :=
  trim (squeeze ((lower s).filter (!isDroppedQuote ·)))

structure Signature where
  key : String
  phrases : List String
  excludes : List String
  deriving DecidableEq, Repr

namespace Signature

/-- How many phrases occur in a text. -/
def matched (s : Signature) (text : List Char) : Nat :=
  (s.phrases.filter fun p => occursIn p.toList text).length

/-- The share of the phrases that occur in a text. -/
def score (s : Signature) (text : List Char) : Rat := (s.matched text : Rat) / s.phrases.length

/-- Whether a text rules the license out. -/
def isExcluded (s : Signature) (text : List Char) : Bool :=
  s.excludes.any fun p => occursIn p.toList text

end Signature

/-- The known signatures. Of two that fit equally well the earlier one is meant. -/
def signatures : List Signature := [
  ⟨"Apache-2.0",
    ["apache license", "version 2.0, january 2004", "www.apache.org/licenses"], []⟩,
  ⟨"MIT",
    ["permission is hereby granted, free of charge, to any person obtaining a copy",
      "the above copyright notice and this permission notice shall be included",
      "the software is provided as is, without warranty of any kind"], []⟩,
  ⟨"BSD-3-Clause",
    ["redistribution and use in source and binary forms, with or without modification, " ++
        "are permitted",
      "neither the name of",
      "this software is provided by the copyright holders and contributors as is"], []⟩,
  ⟨"BSD-2-Clause",
    ["redistribution and use in source and binary forms, with or without modification, " ++
        "are permitted",
      "this software is provided by the copyright holders and contributors as is"],
    ["neither the name of", "all advertising materials"]⟩,
  ⟨"ISC",
    ["permission to use, copy, modify, and",
      "distribute this software for any purpose with or without fee is hereby granted",
      "the software is provided as is and the author disclaims all warranties"], []⟩,
  ⟨"MPL-2.0",
    ["mozilla public license version 2.0",
      "exhibit a - source code form license notice"], []⟩,
  ⟨"AGPL-3.0-only",
    ["gnu affero general public license", "version 3, 19 november 2007"], []⟩,
  ⟨"LGPL-3.0-only",
    ["gnu lesser general public license", "version 3, 29 june 2007"], []⟩,
  ⟨"LGPL-2.1-only",
    ["gnu lesser general public license", "version 2.1, february 1999"], []⟩,
  ⟨"GPL-3.0-only",
    ["gnu general public license", "version 3, 29 june 2007"],
    ["gnu lesser general public license", "gnu affero general public license"]⟩,
  ⟨"GPL-2.0-only",
    ["gnu general public license", "version 2, june 1991"],
    ["gnu lesser general public license", "gnu library general public license"]⟩,
  ⟨"EPL-2.0", ["eclipse public license - v 2.0"], []⟩,
  ⟨"BSL-1.0",
    ["boost software license - version 1.0",
      "permission is hereby granted, free of charge, to any person or organization"], []⟩,
  ⟨"Zlib",
    ["this software is provided as-is, without any express or implied warranty",
      "altered source versions must be plainly marked as such"], []⟩,
  ⟨"CC0-1.0",
    ["cc0 1.0 universal", "creative commons corporation is not a law firm"], []⟩,
  ⟨"Unlicense",
    ["this is free and unencumbered software released into the public domain"], []⟩]

end Attribution.License
