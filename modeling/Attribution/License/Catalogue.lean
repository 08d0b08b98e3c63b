import Attribution.License

/-!
What a reader is told of a license key: its full name and the page that describes it.
-/

namespace Attribution.License

/-- The full names of common licenses. -/
def fullNames : List (String × String) := [
  ("MIT", "MIT License"),
  ("Apache-2.0", "Apache License 2.0"),
  ("GPL-3.0-only", "GNU General Public License v3.0 only"),
  ("GPL-2.0-only", "GNU General Public License v2.0 only"),
  ("LGPL-3.0-only", "GNU Lesser General Public License v3.0 only"),
  ("LGPL-2.1-only", "GNU Lesser General Public License v2.1 only"),
  ("AGPL-3.0-only", "GNU Affero General Public License v3.0 only"),
  ("BSD-3-Clause", "BSD 3-Clause \"New\" or \"Revised\" License"),
  ("BSD-2-Clause", "BSD 2-Clause \"Simplified\" License"),
  ("ISC", "ISC License"),
  ("MPL-2.0", "Mozilla Public License 2.0"),
  ("EPL-2.0", "Eclipse Public License 2.0"),
  ("BSL-1.0", "Boost Software License 1.0"),
  ("Zlib", "zlib License"),
  ("CC0-1.0", "Creative Commons Zero v1.0 Universal"),
  ("Unlicense", "The Unlicense")]

/-- The full name of a license, the key itself where there is none. -/
def fullName (key : String) : String := (fullNames.lookup key).getD key

/-- The page that describes a license, none for a license that nobody could tell. -/
def page? (key : String) : Option String :=
  if key = "" || key = unknownName then none
  else some ("https://spdx.org/licenses/" ++ key ++ ".html")

end Attribution.License
