import CosmeticRules.Text.Property.NamedSet

/-!
The classes of characters that decide where a text may be broken up.
-/

namespace CosmeticRules.Text

/-- The classes of characters for breaks between user-perceived characters. -/
def graphemeBreaks : List NamedSet := [
  ⟨["cn", "control"], [
      "0 A 1 2 1 12 5F 21 D 1 56E 1 11F1 1 7FC 1 2 2 18 7 31 10 DE8F 1 F0 C 3434 10 8860 4",
      "14CF 8 C2E85 20 60 80 F0 E10"]⟩,
  ⟨["cr"], [
      "D 1"]⟩,
  ⟨["ex", "extend"], [
      "300 70 113 7 107 2D 1 1 1 2 1 2 1 1 48 B 30 15 10 1 65 7 2 6 2 2 1 4 23 1 1E 1B 5B B",
      "3A 9 9 1 18 4 1 9 1 3 1 5 2B 3 3B 9 2A 18 1 20 37 1 1 1 4 8 4 1 3 7 A 2 1D 1 3A 1 1",
      "1 2 4 8 1 9 1 A 2 1A 1 2 2 39 1 4 2 4 2 2 3 3 1 1E 2 3 1 B 2 39 1 4 5 1 2 4 1 14 2",
      "16 6 1 1 3A 1 1 2 1 4 8 1 7 3 A 2 1E 1 3B 1 1 1 C 1 9 1 28 1 3 1 37 1 1 3 5 3 1 4 7",
      "2 B 2 1D 1 3A 1 2 2 1 1 3 3 1 4 7 2 B 2 1C 2 39 2 1 1 2 4 8 1 9 1 A 2 1D 1 48 1 4 1",
      "2 3 1 1 8 1 51 1 2 7 C 8 62 1 2 9 B 7 49 2 1B 1 1 1 1 1 37 E 1 5 1 2 5 B 1 24 9 1 66",
      "4 1 6 1 2 2 2 19 2 4 3 10 4 D 1 2 2 6 1 F 1 2BF 3 3B2 4 1C 3 1D 2 1E 2 40 2 1 7 8 1",
      "2 B 9 1 2D 3 1 1 75 2 22 1 76 3 4 2 9 1 6 3 DB 2 2 1 3A 1 1 7 1 1 1 1 2 8 6 A 2 1 30",
      "1F 31 4 30 A 4 3 26 9 C 2 20 4 2 6 38 1 1 2 3 1 1 5 38 8 2 2 98 3 1 D 1 7 4 1 6 1 3",
      "2 C6 40 20C 1 C3 21 BFE 3 8D 1 60 20 22A 6 69 2 75D4 4 1 A 20 2 50 2 110 1 3 1 4 1",
      "19 2 5 1 97 2 1A 12 D 1 26 8 19 B 1 1 2C 3 30 1 2 4 2 2 2 1 24 1 43 6 2 2 2 2 C 1 8",
      "1 2F 1 33 1 1 3 2 2 5 2 1 1 2A 2 8 1 EE 1 2 1 4 1 4F30 1 2E1 10 10 10 16E 2 25D 1 E2",
      "1 95 5 686 3 1 2 5 4 28 3 4 1 A5 2 23D 4 41 5 13D 2 4F 4 46 B 31 4 7B 1 36 F 29 1 2",
      "2 A 3 31 4 2 2 7 1 3D 3 24 5 1 8 3E 1 C 2 34 9 1 1 8 4 2 1 5F 3 2 4 6 1 2 1 9D 1 3 8",
      "15 2 39 2 1 1 1 1 C 1 9 1 E 7 3 5 43 1 2 6 1 1 2 1 1 3 4 3 1 1 E 2 55 8 2 3 1 1 17 1",
      "51 1 2 6 1 1 2 1 1 2 1 2 EB 1 2 4 6 2 1 2 1B 2 55 8 2 1 1 2 6A 1 1 1 2 8 65 1 1 1 2",
      "4 1 5 103 9 1 2 F5 1 A 4 4 1 90 4 2 2 4 1 20 A 28 6 2 4 8 1 9 6 2 3 2E D 1 2 196 7 1",
      "6 1 1 52 16 2 7 1 2 1 2 7A 6 3 1 1 2 1 7 1 1 48 2 3 1 1 1 15B 2 B 2 34 5 5 3 17 1",
      "14E5 1 6 F 2CC8 C 3 3 9C0 5 3B 7 418 1 3F 4 51 1 B 2 4CAB 2 1261 2E 2 17 21E 5 3 6 8",
      "8 2 7 1E 4 94 3 7BB 37 4 32 8 1 E 1 16 5 1 F 550 7 1 11 2 7 1 2 1 5 64 1 A0 7 177 1",
      "3D 4 1FC 4 FE 2 2E0 7 6D 7 AB0 5 C0C20 60 80 F0"]⟩,
  ⟨["l"], [
      "1100 60 9800 1D"]⟩,
  ⟨["lf"], [
      "A 1"]⟩,
  ⟨["lv"], [
      "AC00 1 1B 1 1B 1 1B 1 1B 1 1B 1 1B 1 1B 1 1B 1 1B 1 1B 1 1B 1 1B 1 1B 1 1B 1 1B 1 1B",
      "1 1B 1 1B 1 1B 1 1B 1 1B 1 1B 1 1B 1 1B 1 1B 1 1B 1 1B 1 1B 1 1B 1 1B 1 1B 1 1B 1 1B",
      "1 1B 1 1B 1 1B 1 1B 1 1B 1 1B 1 1B 1 1B 1 1B 1 1B 1 1B 1 1B 1 1B 1 1B 1 1B 1 1B 1 1B",
      "1 1B 1 1B 1 1B 1 1B 1 1B 1 1B 1 1B 1 1B 1 1B 1 1B 1 1B 1 1B 1 1B 1 1B 1 1B 1 1B 1 1B",
      "1 1B 1 1B 1 1B 1 1B 1 1B 1 1B 1 1B 1 1B 1 1B 1 1B 1 1B 1 1B 1 1B 1 1B 1 1B 1 1B 1 1B",
      "1 1B 1 1B 1 1B 1 1B 1 1B 1 1B 1 1B 1 1B 1 1B 1 1B 1 1B 1 1B 1 1B 1 1B 1 1B 1 1B 1 1B",
      "1 1B 1 1B 1 1B 1 1B 1 1B 1 1B 1 1B 1 1B 1 1B 1 1B 1 1B 1 1B 1 1B 1 1B 1 1B 1 1B 1 1B",
      "1 1B 1 1B 1 1B 1 1B 1 1B 1 1B 1 1B 1 1B 1 1B 1 1B 1 1B 1 1B 1 1B 1 1B 1 1B 1 1B 1 1B",
      "1 1B 1 1B 1 1B 1 1B 1 1B 1 1B 1 1B 1 1B 1 1B 1 1B 1 1B 1 1B 1 1B 1 1B 1 1B 1 1B 1 1B",
      "1 1B 1 1B 1 1B 1 1B 1 1B 1 1B 1 1B 1 1B 1 1B 1 1B 1 1B 1 1B 1 1B 1 1B 1 1B 1 1B 1 1B",
      "1 1B 1 1B 1 1B 1 1B 1 1B 1 1B 1 1B 1 1B 1 1B 1 1B 1 1B 1 1B 1 1B 1 1B 1 1B 1 1B 1 1B",
      "1 1B 1 1B 1 1B 1 1B 1 1B 1 1B 1 1B 1 1B 1 1B 1 1B 1 1B 1 1B 1 1B 1 1B 1 1B 1 1B 1 1B",
      "1 1B 1 1B 1 1B 1 1B 1 1B 1 1B 1 1B 1 1B 1 1B 1 1B 1 1B 1 1B 1 1B 1 1B 1 1B 1 1B 1 1B",
      "1 1B 1 1B 1 1B 1 1B 1 1B 1 1B 1 1B 1 1B 1 1B 1 1B 1 1B 1 1B 1 1B 1 1B 1 1B 1 1B 1 1B",
      "1 1B 1 1B 1 1B 1 1B 1 1B 1 1B 1 1B 1 1B 1 1B 1 1B 1 1B 1 1B 1 1B 1 1B 1 1B 1 1B 1 1B",
      "1 1B 1 1B 1 1B 1 1B 1 1B 1 1B 1 1B 1 1B 1 1B 1 1B 1 1B 1 1B 1 1B 1 1B 1 1B 1 1B 1 1B",
      "1 1B 1 1B 1 1B 1 1B 1 1B 1 1B 1 1B 1 1B 1 1B 1 1B 1 1B 1 1B 1 1B 1 1B 1 1B 1 1B 1 1B",
      "1 1B 1 1B 1 1B 1 1B 1 1B 1 1B 1 1B 1 1B 1 1B 1 1B 1 1B 1 1B 1 1B 1 1B 1 1B 1 1B 1 1B",
      "1 1B 1 1B 1 1B 1 1B 1 1B 1 1B 1 1B 1 1B 1 1B 1 1B 1 1B 1 1B 1 1B 1 1B 1 1B 1 1B 1 1B",
      "1 1B 1 1B 1 1B 1 1B 1 1B 1 1B 1 1B 1 1B 1 1B 1 1B 1 1B 1 1B 1 1B 1 1B 1 1B 1 1B 1 1B",
      "1 1B 1 1B 1 1B 1 1B 1 1B 1 1B 1 1B 1 1B 1 1B 1 1B 1 1B 1 1B 1 1B 1 1B 1 1B 1 1B 1 1B",
      "1 1B 1 1B 1 1B 1 1B 1 1B 1 1B 1 1B 1 1B 1 1B 1 1B 1 1B 1 1B 1 1B 1 1B 1 1B 1 1B 1 1B",
      "1 1B 1 1B 1 1B 1 1B 1 1B 1 1B 1 1B 1 1B 1 1B 1 1B 1 1B 1 1B 1 1B 1 1B 1 1B 1 1B 1 1B",
      "1 1B 1 1B 1 1B 1 1B 1 1B 1 1B 1 1B 1 1B 1"]⟩,
  ⟨["lvt"], [
      "AC01 1B 1 1B 1 1B 1 1B 1 1B 1 1B 1 1B 1 1B 1 1B 1 1B 1 1B 1 1B 1 1B 1 1B 1 1B 1 1B 1",
      "1B 1 1B 1 1B 1 1B 1 1B 1 1B 1 1B 1 1B 1 1B 1 1B 1 1B 1 1B 1 1B 1 1B 1 1B 1 1B 1 1B 1",
      "1B 1 1B 1 1B 1 1B 1 1B 1 1B 1 1B 1 1B 1 1B 1 1B 1 1B 1 1B 1 1B 1 1B 1 1B 1 1B 1 1B 1",
      "1B 1 1B 1 1B 1 1B 1 1B 1 1B 1 1B 1 1B 1 1B 1 1B 1 1B 1 1B 1 1B 1 1B 1 1B 1 1B 1 1B 1",
      "1B 1 1B 1 1B 1 1B 1 1B 1 1B 1 1B 1 1B 1 1B 1 1B 1 1B 1 1B 1 1B 1 1B 1 1B 1 1B 1 1B 1",
      "1B 1 1B 1 1B 1 1B 1 1B 1 1B 1 1B 1 1B 1 1B 1 1B 1 1B 1 1B 1 1B 1 1B 1 1B 1 1B 1 1B 1",
      "1B 1 1B 1 1B 1 1B 1 1B 1 1B 1 1B 1 1B 1 1B 1 1B 1 1B 1 1B 1 1B 1 1B 1 1B 1 1B 1 1B 1",
      "1B 1 1B 1 1B 1 1B 1 1B 1 1B 1 1B 1 1B 1 1B 1 1B 1 1B 1 1B 1 1B 1 1B 1 1B 1 1B 1 1B 1",
      "1B 1 1B 1 1B 1 1B 1 1B 1 1B 1 1B 1 1B 1 1B 1 1B 1 1B 1 1B 1 1B 1 1B 1 1B 1 1B 1 1B 1",
      "1B 1 1B 1 1B 1 1B 1 1B 1 1B 1 1B 1 1B 1 1B 1 1B 1 1B 1 1B 1 1B 1 1B 1 1B 1 1B 1 1B 1",
      "1B 1 1B 1 1B 1 1B 1 1B 1 1B 1 1B 1 1B 1 1B 1 1B 1 1B 1 1B 1 1B 1 1B 1 1B 1 1B 1 1B 1",
      "1B 1 1B 1 1B 1 1B 1 1B 1 1B 1 1B 1 1B 1 1B 1 1B 1 1B 1 1B 1 1B 1 1B 1 1B 1 1B 1 1B 1",
      "1B 1 1B 1 1B 1 1B 1 1B 1 1B 1 1B 1 1B 1 1B 1 1B 1 1B 1 1B 1 1B 1 1B 1 1B 1 1B 1 1B 1",
      "1B 1 1B 1 1B 1 1B 1 1B 1 1B 1 1B 1 1B 1 1B 1 1B 1 1B 1 1B 1 1B 1 1B 1 1B 1 1B 1 1B 1",
      "1B 1 1B 1 1B 1 1B 1 1B 1 1B 1 1B 1 1B 1 1B 1 1B 1 1B 1 1B 1 1B 1 1B 1 1B 1 1B 1 1B 1",
      "1B 1 1B 1 1B 1 1B 1 1B 1 1B 1 1B 1 1B 1 1B 1 1B 1 1B 1 1B 1 1B 1 1B 1 1B 1 1B 1 1B 1",
      "1B 1 1B 1 1B 1 1B 1 1B 1 1B 1 1B 1 1B 1 1B 1 1B 1 1B 1 1B 1 1B 1 1B 1 1B 1 1B 1 1B 1",
      "1B 1 1B 1 1B 1 1B 1 1B 1 1B 1 1B 1 1B 1 1B 1 1B 1 1B 1 1B 1 1B 1 1B 1 1B 1 1B 1 1B 1",
      "1B 1 1B 1 1B 1 1B 1 1B 1 1B 1 1B 1 1B 1 1B 1 1B 1 1B 1 1B 1 1B 1 1B 1 1B 1 1B 1 1B 1",
      "1B 1 1B 1 1B 1 1B 1 1B 1 1B 1 1B 1 1B 1 1B 1 1B 1 1B 1 1B 1 1B 1 1B 1 1B 1 1B 1 1B 1",
      "1B 1 1B 1 1B 1 1B 1 1B 1 1B 1 1B 1 1B 1 1B 1 1B 1 1B 1 1B 1 1B 1 1B 1 1B 1 1B 1 1B 1",
      "1B 1 1B 1 1B 1 1B 1 1B 1 1B 1 1B 1 1B 1 1B 1 1B 1 1B 1 1B 1 1B 1 1B 1 1B 1 1B 1 1B 1",
      "1B 1 1B 1 1B 1 1B 1 1B 1 1B 1 1B 1 1B 1 1B 1 1B 1 1B 1 1B 1 1B 1 1B 1 1B 1 1B 1 1B 1",
      "1B 1 1B 1 1B 1 1B 1 1B 1 1B 1 1B 1 1B 1 1B"]⟩,
  ⟨["pp", "prepend"], [
      "600 6 D7 1 31 1 180 2 50 1 46B 1 1036E 1 F 1 F4 2 20D 1 56D 1 1 1 F8 1 49 6 2BC 1",
      "1BB 1"]⟩,
  ⟨["ri", "regionalindicator"], [
      "1F1E6 1A"]⟩,
  ⟨["sm", "spacingmark"], [
      "903 1 37 1 2 3 8 4 1 2 32 2 3B 2 6 2 2 2 36 1 3A 3 42 1 3A 3 8 1 1 2 35 2 3C 1 6 2 2",
      "2 72 1 1 2 3 3 1 3 34 3 3D 4 3D 2 3A 1 2 1 1 2 2E 1 E 2 3B 2 5 3 1 3 35 2 4C 2 6 7",
      "13 2 3F 1 7F 1 8A 2 3F 1 B1 1 9 2 19 2 2C 1 731 1 7 8 1 2 15A 4 2 3 4 2 1 6 E0 2 3A",
      "1 1 1 15 6 91 1 39 4 40 1 1E 1 4 2 3F 1 2 3 1 1 35 8 8 2 AB 1 15 1 8B2B 2 2 1 58 2",
      "32 10 8E 1 30 1 30 2 4 2 2 2 6F 2 2 2 18 1 9D 1 2 2 5 1 ED 2 1 2 1 2 1 1 6413 1 1 1",
      "7F 1 2D 3 4 2 73 1 18 2 3B 1 30 3 9 1 E 1 5D 3 3 2 AC 3 1F 2 3B 1 1 4 2 2 2 2 15 2",
      "55 2 F 1 1 2 67 3 8 2 3 1 6B 2 6 1 1 2 1 1 2 1 EE 2 6 4 2 1 71 3 8 2 1 1 6D 1 1 2 6E",
      "1 7 1 105 3 9 1 F8 5 1 2 7 1 1 1 8E 3 8 4 4 1 54 1 1D 2 3E 1 197 1 E 1 6A 1 7 1 2 1",
      "D5 5 4 2 1 1 15E 2 C 1 30 2 8 2 41EA 3 E24 37"]⟩,
  ⟨["t"], [
      "11A8 58 C5CB 31"]⟩,
  ⟨["v"], [
      "1160 48 C608 17 959C 1 3 4"]⟩,
  ⟨["zwj"], [
      "200D 1"]⟩]

/-- The classes of characters for breaks between words. -/
def wordBreaks : List NamedSet := [
  ⟨["cr"], [
      "D 1"]⟩,
  ⟨["dq", "doublequote"], [
      "22 1"]⟩,
  ⟨["ex", "extendnumlet"], [
      "5F 1 1FCF 1 F 2 13 1 DDDE 2 18 3 EF 1"]⟩,
  ⟨["extend"], [
      "300 70 113 7 107 2D 1 1 1 2 1 2 1 1 48 B 30 15 10 1 65 7 2 6 2 2 1 4 23 1 1E 1B 5B B",
      "3A 9 9 1 18 4 1 9 1 3 1 5 2B 3 3B 9 2A 18 1 21 36 3 1 12 1 7 A 2 1D 3 38 1 1 7 2 2 2",
      "3 9 1 A 2 1A 1 2 3 38 1 1 5 4 2 2 3 3 1 1E 2 3 1 B 3 38 1 1 8 1 3 1 3 14 2 16 6 1 3",
      "38 1 1 7 2 2 2 3 7 3 A 2 1E 1 3B 5 3 3 1 4 9 1 28 5 37 1 1 7 1 3 1 4 7 2 B 2 1D 3 38",
      "1 1 7 1 3 1 4 7 2 B 2 F 1 C 4 37 2 1 7 1 3 1 4 9 1 A 2 1D 3 46 1 4 6 1 1 1 8 12 2 3D",
      "1 2 7 C 8 62 1 2 9 B 7 49 2 1B 1 1 1 1 1 4 2 31 14 1 2 5 B 1 24 9 1 64 14 17 4 4 3 1",
      "3 2 7 3 4 D C 1 1 A 4 2BF 3 3B2 4 1C 3 1D 2 1E 2 40 20 9 1 2D 3 1 1 75 2 22 1 76 C 4",
      "C DB 5 39 A 1 1D 2 1 30 1F 31 5 2F 11 26 9 C 3 1E D 38 E 30 14 98 3 1 15 4 1 6 1 2 3",
      "C6 40 20C 1 C3 21 BFE 3 8D 1 60 20 22A 6 69 2 75D4 4 1 A 20 2 50 2 110 1 3 1 4 1 17",
      "5 4 1 53 2 32 12 1A 12 D 1 26 8 19 D 2C 4 2F E 24 1 43 E C 1 8 2 2D 3 32 1 1 3 2 2 5",
      "2 1 1 29 5 5 2 EC 8 1 2 4F30 1 2E1 10 10 10 16E 2 25D 1 E2 1 95 5 686 3 1 2 5 4 28 3",
      "4 1 A5 2 23D 4 41 5 13D 2 4F 4 46 B 31 4 7A 3 35 F 29 1 2 2 A 4 2D B 7 1 3D 3 24 E",
      "10 2 2C 1 C 3 30 E 8 4 1 2 5C C 6 1 2 1 9D C 15 4 37 2 1 7 2 2 2 3 9 1 A 2 2 7 3 5",
      "43 9 1 1 2 1 1 4 1 5 1 1 E 2 52 12 17 1 51 14 EB 7 2 9 1B 2 52 11 6A D 65 F 100 F F5",
      "6 1 2 2 4 1 1 1 2 8D 7 2 7 3 1 1C A 28 7 1 4 8 1 9 B 2E 10 195 8 1 8 52 16 1 E 7A 6",
      "3 1 1 2 1 7 1 1 42 5 1 2 1 5 15B 4 9 2 1 1 30 7 3 5 17 1 14E5 1 6 F 2CC8 12 9C0 5 3B",
      "7 418 1 1 37 7 4 51 1 B 2 4CAB 2 1261 2E 2 17 21E 5 3 6 8 8 2 7 1E 4 94 3 7BB 37 4",
      "32 8 1 E 1 16 5 1 F 550 7 1 11 2 7 1 2 1 5 64 1 A0 7 177 1 3D 4 1FC 4 FE 2 2E0 7 6D",
      "7 AB0 5 C0C20 60 80 F0"]⟩,
  ⟨["fo", "format"], [
      "AD 1 552 6 16 1 C0 1 31 1 180 2 50 1 F2B 1 7FF 2 1A 5 31 5 1 A DE8F 1 F9 3 10C1 1 F",
      "1 2362 10 8860 4 14CF 8 C2E86 1"]⟩,
  ⟨["hl", "hebrewletter"], [
      "5D0 1B 4 4 F52A 1 1 A 1 D 1 5 1 1 1 2 1 2 1 A"]⟩,
  ⟨["ka", "katakana"], [
      "3031 5 65 2 3 5B 1 4 F0 10 D0 2F 1 58 CC0E 38 B052 4 1 7 1 2 1 1 11F 3 32 1 E 4"]⟩,
  ⟨["le", "aletter"], [
      "41 1A 6 1A 2F 1 A 1 4 1 5 17 1 1F 1 1E0 6 22 70 5 1 2 2 4 1 1 6 1 1 3 1 1 1 14 1 53",
      "1 8B 8 A6 1 26 2 4 1 1 1 29 1 1 68 1 2C 2B 23 2 1 63 1 1 F 2 7 2 A 3 2 1 10 1 1 1E",
      "1D 59 B 1 18 21 9 2 4 1 5 16 4 1 9 1 3 1 17 19 7 B 5 18 1 6 11 2A 3A 36 3 1 12 1 7 A",
      "F 10 4 8 2 2 2 16 1 7 1 1 3 4 3 1 10 1 D 2 1 3 E 2 A 1 8 6 4 2 2 16 1 7 1 2 1 2 1 2",
      "1F 4 1 1 13 3 10 9 1 3 1 16 1 7 1 2 1 5 3 1 12 1 F 2 17 1 B 8 2 2 2 16 1 7 1 2 1 5 3",
      "1 1E 2 1 3 F 1 11 1 1 6 3 3 1 4 3 2 1 1 1 2 3 2 3 3 3 C 16 1 34 8 1 3 1 17 1 10 3 1",
      "1A 3 2 1 2 2 1E 1 4 8 1 3 1 17 1 A 1 5 3 1 1F 2 1 2 F 2 11 9 1 3 1 29 2 1 10 1 5 3 8",
      "3 18 6 5 12 3 18 1 9 1 1 2 7 139 1 3F 8 1 24 1B 5 113 26 1 1 5 1 2 2B 1 14D 1 4 2 7",
      "1 1 1 4 2 29 1 4 2 21 1 4 2 7 1 1 1 4 2 F 1 39 1 4 2 43 25 10 10 56 2 6 3 26C 2 11 1",
      "1A 5 4B 3 B 7 12 D 13 E 12 E D 1 3 AF 59 7 5 2 22 1 1 5 46 A 1F E1 17 EE 2F 11 8 36",
      "1E D 2 A 2C 1A 24 29 3 A 24 2 B 5 2B 2 3 29 4 1 6 1 2 3 1 5 C0 40 116 2 6 2 26 2 6 2",
      "8 1 1 1 1 1 1 1 1F 2 35 1 7 1 1 3 3 1 7 3 4 2 6 4 D 5 3 1 7 74 1 D 1 10 D 65 1 4 1 2",
      "A 1 1 3 5 6 1 1 1 1 1 1 4 1 B 2 4 5 5 4 1 11 29 32D 34 716 E5 6 4 3 2 C 26 1 1 5 1 2",
      "38 7 1 10 17 9 7 1 7 1 7 1 7 1 7 1 7 1 7 1 7 50 1 1D5 1 35 2 C8 2B 1 5E 11 20 6E40",
      "48D 43 2E 2 10D 3 10 A 2 14 2F 10 1F 2 50 18 C6 2 2 1 1 1 8 15 10 1 3 1 4 1 17 1D 34",
      "E 32 3E 6 3 1 1 2 B 1C A 17 19 1D 7 2F 1C 1 30 29 17 3 1 8 94 B 7 3 C 6 2 6 2 6 9 7",
      "1 7 1 3A 6 73 1D 2BA4 C 17 4 31 2304 7 C 5 38 62 21 16B 12 40 2 36 28 C 74 5 1 87 24",
      "1A 6 1A 45 1F 3 6 2 6 2 6 2 3 23 C 1 1A 1 13 1 2 1 F 2 E 22 7B 45 35 10B 1D 3 31 2F",
      "20 D 1E 5 26 A 1E 2 24 4 8 1 5 2A 9E 12 24 4 24 4 28 8 34 C B 1 F 1 7 1 2 1 B 1 F 1",
      "7 1 2 3 34 C 137 9 16 A 8 18 6 1 2A 1 9 45 6 2 1 1 2C 1 2 3 1 2 17 A 17 9 1F 41 13 1",
      "2 A 16 A 1A 46 38 6 2 40 1 F 4 1 3 1 1D 2A 1D 3 1D 23 8 1 1C 1B 36 A 16 A 13 D 12 6E",
      "49 37 33 D 33 D 24 26 1C 9 17 FA 2A 6 2 10 3 3B 1D A 1 8 16 2A 12 2E 15 1B 17 C 35",
      "39 2 2 1 D 2D 20 19 1A 24 1D 1 2 1 8 23 3 1 C 30 E 4 15 1 1 1 23 12 1 19 13 2 3F 7 1",
      "1 1 4 1 F 1 A 7 2F 26 8 2 2 2 16 1 7 1 2 1 5 3 1 12 1 C 5 1E A 1 1 2 1 1 26 1 1 19 1",
      "1 1 2C 35 12 4 14 3 1E 30 14 2 1 1 B8 2F 29 4 24 30 14 1 3B 2B D 1 147 2C 74 40 1F 8",
      "2 1 2 8 1 2 1 18 F 1 1 1 5E 8 2 27 10 1 1 1 1C 1 A 28 7 1 15 1 B 2E 13 1 12 49 C7 21",
      "1F 9 1 25 11 1 31 1E 70 7 1 2 1 26 15 1 19 6 1 2 1 20 E 1 147 13 F 1 1 D 1 22 7C 1",
      "4F 39A 66 6F 11 C4 A4C 61 F 430 11 6 19 F9B 5 247 1AB9 1E 6E2 239 7 1F 11 4F 11 1E",
      "12 30 10 4 1F 15 5 13 1B0 2D D3 40 80 4B 5 1 42 D 40 2 1 1 1D1B 1 2F00 6B 5 D 3 9 7",
      "A 1766 55 1 47 1 2 2 1 2 2 2 4 1 C 1 1 1 7 1 41 1 4 2 8 1 7 1 1C 1 4 1 5 1 1 3 7 1",
      "154 2 19 1 19 1 1F 1 19 1 1F 1 19 1 1F 1 19 1 1F 1 19 1 8 734 1F 6 6 105 3E 92 2D A",
      "7 10 1 141 1E 12 2C 1E4 1C E4 1E 2 1 1EF 7 1 4 1 2 1 F 1 C5 3B 44 7 1 4B4 4 1 1B 1 2",
      "1 1 2 1 1 A 1 4 1 1 1 1 6 1 4 1 1 1 1 1 1 3 1 2 1 1 2 1 1 1 1 1 1 1 1 1 1 2 1 1 2 4",
      "1 7 1 4 1 4 1 1 1 A 1 11 5 3 1 5 1 11 274 1A 6 1A 6 1A"]⟩,
  ⟨["lf"], [
      "A 1"]⟩,
  ⟨["mb", "midnumlet"], [
      "2E 1 1FE9 2 A 1 DE2D 1 B4 1 6 1"]⟩,
  ⟨["ml", "midletter"], [
      "3A 1 7C 1 2CF 1 1D7 1 94 1 1A32 1 DDEB 1 41 1 C4 1"]⟩,
  ⟨["mn", "midnum"], [
      "2C 1 E 1 342 1 20A 1 82 2 5E 1 18B 1 184B 1 DDCB 1 3 1 3B 1 3 1 B7 1 E 1"]⟩,
  ⟨["nl", "newline"], [
      "B 2 78 1 1FA2 2"]⟩,
  ⟨["nu", "numeric"], [
      "30 A 626 A 1 1 84 A C6 A 19C A 76 A 76 A 76 A 76 A 76 A 76 A 76 A 76 A 76 A 60 A 76",
      "A 46 A 116 A 46 A 746 A 26 A 12C A 80 A A6 A 6 A B6 A 56 A 86 A 6 A 89C6 A 2A6 A 26",
      "A C6 A 16 A 56 A 196 A 5316 A 586 A 886 A 6 A 31C A 80 A 3C A 90 A 116 A 156 A 76 A",
      "176 A 66 A 6 14 4C A 1A6 A 66 A 296 A 56 A F6 A 46 A 1A6 A 41D6 A 926 A 56 A 86 A",
      "216 A 5F76 A AD4 32 940 A 1A6 A 1F6 A F7 A 355 A 1296 A"]⟩,
  ⟨["ri", "regionalindicator"], [
      "1F1E6 1A"]⟩,
  ⟨["sq", "singlequote"], [
      "27 1"]⟩,
  ⟨["wsegspace"], [
      "20 1 165F 1 97F 7 1 3 54 1 FA0 1"]⟩,
  ⟨["zwj"], [
      "200D 1"]⟩]

/-- The classes of characters for breaks between sentences. -/
def sentenceBreaks : List NamedSet := [
  ⟨["at", "aterm"], [
      "2E 1 1FF5 1 DE2D 1 BB 1"]⟩,
  ⟨["cl", "close"], [
      "22 1 4 3 31 1 1 1 1D 1 1 1 2D 1 F 1 E7E 4 75D 2 97B 8 19 2 A 2 36 2 E 2 279 4 1D 2",
      "430 6 7 E 4F 2 1F A 193 16 3F 4 20 2 402 E E 2 2 A 18 1 12 8 1AB A 2 8 1 3 CD1E 2 D7",
      "2 1C 10 2 2 10 6 A9 2 31 1 1 1 1D 1 1 1 1 2 1 2 F712 3"]⟩,
  ⟨["cr"], [
      "D 1"]⟩,
  ⟨["ex", "extend"], [
      "300 70 113 7 107 2D 1 1 1 2 1 2 1 1 48 B 30 15 10 1 65 7 2 6 2 2 1 4 23 1 1E 1B 5B B",
      "3A 9 9 1 18 4 1 9 1 3 1 5 2B 3 3B 9 2A 18 1 21 36 3 1 12 1 7 A 2 1D 3 38 1 1 7 2 2 2",
      "3 9 1 A 2 1A 1 2 3 38 1 1 5 4 2 2 3 3 1 1E 2 3 1 B 3 38 1 1 8 1 3 1 3 14 2 16 6 1 3",
      "38 1 1 7 2 2 2 3 7 3 A 2 1E 1 3B 5 3 3 1 4 9 1 28 5 37 1 1 7 1 3 1 4 7 2 B 2 1D 3 38",
      "1 1 7 1 3 1 4 7 2 B 2 F 1 C 4 37 2 1 7 1 3 1 4 9 1 A 2 1D 3 46 1 4 6 1 1 1 8 12 2 3D",
      "1 2 7 C 8 62 1 2 9 B 7 49 2 1B 1 1 1 1 1 4 2 31 14 1 2 5 B 1 24 9 1 64 14 17 4 4 3 1",
      "3 2 7 3 4 D C 1 1 A 4 2BF 3 3B2 4 1C 3 1D 2 1E 2 40 20 9 1 2D 3 1 1 75 2 22 1 76 C 4",
      "C DB 5 39 A 1 1D 2 1 30 1F 31 5 2F 11 26 9 C 3 1E D 38 E 30 14 98 3 1 15 4 1 6 1 2 3",
      "C6 40 20C 2 C2 21 BFE 3 8D 1 60 20 22A 6 69 2 75D4 4 1 A 20 2 50 2 110 1 3 1 4 1 17",
      "5 4 1 53 2 32 12 1A 12 D 1 26 8 19 D 2C 4 2F E 24 1 43 E C 1 8 2 2D 3 32 1 1 3 2 2 5",
      "2 1 1 29 5 5 2 EC 8 1 2 4F30 1 2E1 10 10 10 16E 2 25D 1 E2 1 95 5 686 3 1 2 5 4 28 3",
      "4 1 A5 2 23D 4 41 5 13D 2 4F 4 46 B 31 4 7A 3 35 F 29 1 2 2 A 4 2D B 7 1 3D 3 24 E",
      "10 2 2C 1 C 3 30 E 8 4 1 2 5C C 6 1 2 1 9D C 15 4 37 2 1 7 2 2 2 3 9 1 A 2 2 7 3 5",
      "43 9 1 1 2 1 1 4 1 5 1 1 E 2 52 12 17 1 51 14 EB 7 2 9 1B 2 52 11 6A D 65 F 100 F F5",
      "6 1 2 2 4 1 1 1 2 8D 7 2 7 3 1 1C A 28 7 1 4 8 1 9 B 2E 10 195 8 1 8 52 16 1 E 7A 6",
      "3 1 1 2 1 7 1 1 42 5 1 2 1 5 15B 4 9 2 1 1 30 7 3 5 17 1 14E5 1 6 F 2CC8 12 9C0 5 3B",
      "7 418 1 1 37 7 4 51 1 B 2 4CAB 2 1261 2E 2 17 21E 5 3 6 8 8 2 7 1E 4 94 3 7BB 37 4",
      "32 8 1 E 1 16 5 1 F 550 7 1 11 2 7 1 2 1 5 64 1 A0 7 177 1 3D 4 1FC 4 FE 2 2E0 7 6D",
      "7 C16D5 60 80 F0"]⟩,
  ⟨["fo", "format"], [
      "AD 1 552 6 16 1 C0 1 31 1 180 2 50 1 F2B 1 7FC 1 2 2 1A 5 31 5 1 A DE8F 1 F9 3 10C1",
      "1 F 1 2362 10 8860 4 14CF 8 C2E86 1"]⟩,
  ⟨["le", "oletter"], [
      "1BB 1 4 4 D0 1 24 7 6 C 1A 1 1 1 85 1 1E4 1 76 1B 4 5 2C 2B 23 2 1 63 1 1 F 2 7 2 A",
      "3 2 1 10 1 1 1E 1D 59 B 1 18 21 9 2 4 1 5 16 4 1 9 1 3 1 17 19 7 B 5 18 1 6 11 2A 3A",
      "36 3 1 12 1 7 A F 10 4 8 2 2 2 16 1 7 1 1 3 4 3 1 10 1 D 2 1 3 E 2 A 1 8 6 4 2 2 16",
      "1 7 1 2 1 2 1 2 1F 4 1 1 13 3 10 9 1 3 1 16 1 7 1 2 1 5 3 1 12 1 F 2 17 1 B 8 2 2 2",
      "16 1 7 1 2 1 5 3 1 1E 2 1 3 F 1 11 1 1 6 3 3 1 4 3 2 1 1 1 2 3 2 3 3 3 C 16 1 34 8 1",
      "3 1 17 1 10 3 1 1A 3 2 1 2 2 1E 1 4 8 1 3 1 17 1 A 1 5 3 1 1F 2 1 2 F 2 11 9 1 3 1",
      "29 2 1 10 1 5 3 8 3 18 6 5 12 3 18 1 9 1 1 2 7 3A 30 1 2 C 7 3A 2 1 1 1 5 1 18 1 1 1",
      "A 1 2 9 1 2 5 1 1 15 4 20 1 3F 8 1 24 1B 5 73 2B 14 1 10 6 4 4 3 1 3 2 7 3 4 D C 1",
      "41 2B 2 14C 1 4 2 7 1 1 1 4 2 29 1 4 2 21 1 4 2 7 1 1 1 4 2 F 1 39 1 4 2 43 25 10 71",
      "26C 2 11 1 1A 5 4B 3 B 7 12 D 13 E 12 E D 1 3 F 34 23 1 4 1 43 59 7 5 2 22 1 1 5 46",
      "A 1F 31 1E 2 5 B 2C 4 1A 36 17 9 35 52 1 5D 2F 11 8 36 1E D 2 A 2C 1A 24 29 3 A 24",
      "12 2B 2 3 29 4 1 6 1 2 3 1 43A 4 47 3 2 4 BA7 38 7 1 10 17 9 7 1 7 1 7 1 7 1 7 1 7 1",
      "7 1 7 50 1 1D5 3 19 9 7 5 2 5 4 56 6 3 1 5A 1 4 5 2B 1 5E 11 20 30 10 200 19C0 40",
      "568D 43 2E 2 10D 3 10 A 2 42 1 10 1 20 50 27 9 68 1 6 1 67 1 3 7 1 3 1 4 1 17 1D 34",
      "E 32 3E 6 3 1 1 2 B 1C A 17 19 1D 7 2F 1C 1 10 5 1 A A 5 1 29 17 3 1 8 14 17 3 1 3",
      "32 1 1 3 2 2 5 2 1 1 1 18 3 2 B 7 3 C 6 2 6 2 6 9 7 1 7 91 23 1D 2BA4 C 17 4 31 2104",
      "16E 2 6A 43 1 1 A 1 D 1 5 1 1 1 2 1 2 1 6C 21 16B 12 40 2 36 28 C 74 5 1 87 69 38 2",
      "1F 3 6 2 6 2 6 2 3 23 C 1 1A 1 13 1 2 1 F 2 E 22 7B 45 35 10B 1D 3 31 2F 20 D 1E 5",
      "26 A 1E 2 24 4 8 1 5 7A 4E 62 28 8 34 5C 34 C 137 9 16 A 8 19 2 7D 6 2 1 1 2C 1 2 3",
      "1 2 17 A 17 9 1F 41 13 1 2 A 16 A 1A 46 38 6 2 40 1 F 4 1 3 1 1D 2A 1D 3 1D 23 8 1",
      "1C 1B 36 A 16 A 13 D 12 6E 49 B7 24 26 6 1F 1 110 2A 6 2 10 3 3B 1D A 1 8 16 2A 12",
      "2E 15 1B 17 C 35 39 2 2 1 D 2D 20 19 1A 24 1D 1 2 1 8 23 3 1 C 30 E 4 15 1 1 1 23 12",
      "1 19 13 2 3F 7 1 1 1 4 1 F 1 A 7 2F 26 8 2 2 2 16 1 7 1 2 1 5 3 1 12 1 C 5 1E A 1 1",
      "2 1 1 26 1 1 19 1 1 1 2C 35 12 4 14 3 1E 30 14 2 1 1 B8 2F 29 4 24 30 14 1 3B 2B D 1",
      "47 1B 25 7 B9 2C D3 8 2 1 2 8 1 2 1 18 F 1 1 1 5E 8 2 27 10 1 1 1 1C 1 A 28 7 1 15 1",
      "B 2E 13 1 12 49 C7 21 1F 9 1 25 11 1 31 1E 70 7 1 2 1 26 15 1 19 6 1 2 1 20 E 1 147",
      "13 F 1 1 D 1 22 7C 1 4F 39A 66 6F 11 C4 A4C 61 F 430 11 6 19 F9B 5 247 1AB9 1E 6E2",
      "239 7 1F 11 4F 11 1E 12 30 10 4 1F 15 5 13 1B0 2D 193 4B 5 1 42 D 40 2 1 1 1C 17F8 8",
      "4D6 29 A 22E7 4 1 7 1 2 1 123 F 1 1D 3 2 1 E 4 8 18C 904 6B 5 D 3 9 7 A 2270 1 1F5",
      "2D A 7 10 1 141 1E 12 2C 1E4 1C E4 1E 2 1 1EF 7 1 4 1 2 1 F 1 C5 86 1 4B4 4 1 1B 1 2",
      "1 1 2 1 1 A 1 4 1 1 1 1 6 1 4 1 1 1 1 1 1 3 1 2 1 1 2 1 1 1 1 1 1 1 1 1 1 2 1 1 2 4",
      "1 7 1 4 1 4 1 1 1 A 1 11 5 3 1 5 1 11 1144 A6E0 20 103A 6 DE 2 1682 E 1D31 F 26E 9A2",
      "21E 5E2 134B 5 1060"]⟩,
  ⟨["lf"], [
      "A 1"]⟩,
  ⟨["lo", "lower"], [
      "61 1A 2F 1 A 1 4 1 24 18 1 8 1 1 1 1 1 1 1 1 1 1 1 1 1 1 1 1 1 1 1 1 1 1 1 1 1 1 1 1",
      "1 1 1 1 1 1 1 1 1 1 1 1 1 1 1 1 1 1 1 1 1 1 1 1 1 1 1 2 1 1 1 1 1 1 1 1 1 1 1 1 1 1",
      "1 2 1 1 1 1 1 1 1 1 1 1 1 1 1 1 1 1 1 1 1 1 1 1 1 1 1 1 1 1 1 1 1 1 1 1 1 1 1 1 1 1",
      "1 1 1 1 1 1 2 1 1 1 1 3 2 1 1 1 2 1 3 2 4 1 2 1 3 3 2 1 2 1 1 1 1 1 2 1 1 2 1 1 2 1",
      "3 1 1 1 2 2 2 3 6 1 2 1 2 1 1 1 1 1 1 1 1 1 1 1 1 1 1 1 1 2 1 1 1 1 1 1 1 1 1 1 1 1",
      "1 1 1 1 1 2 2 1 1 1 3 1 1 1 1 1 1 1 1 1 1 1 1 1 1 1 1 1 1 1 1 1 1 1 1 1 1 1 1 1 1 1",
      "1 1 1 1 1 1 1 1 1 1 1 1 1 1 1 1 1 1 1 1 1 1 1 1 1 1 1 7 2 1 2 2 1 1 4 1 1 1 1 1 1 1",
      "1 45 1 24 7 2 1E 5 8C 1 1 1 3 1 2 4 12 1 1B 23 1 2 3 3 1 1 1 1 1 1 1 1 1 1 1 1 1 1 1",
      "1 1 1 1 1 1 1 1 5 1 1 2 1 2 2 33 30 1 1 1 1 1 1 1 1 1 1 1 1 1 1 1 1 1 1 1 1 1 1 1 1",
      "1 1 1 1 1 1 1 1 1 1 9 1 1 1 1 1 1 1 1 1 1 1 1 1 1 1 1 1 1 1 1 1 1 1 1 1 1 1 1 1 1 1",
      "1 1 1 1 1 1 1 1 1 1 1 1 1 1 1 1 1 1 1 1 1 1 2 1 1 1 1 1 1 1 1 1 1 1 1 2 1 1 1 1 1 1",
      "1 1 1 1 1 1 1 1 1 1 1 1 1 1 1 1 1 1 1 1 1 1 1 1 1 1 1 1 1 1 1 1 1 1 1 1 1 1 1 1 1 1",
      "1 1 1 1 1 1 1 1 1 1 1 1 1 1 1 1 1 1 1 1 1 1 1 1 1 1 1 1 1 1 1 1 1 1 1 1 1 1 1 1 1 1",
      "1 1 1 1 1 1 30 29 B73 1 2FB 6 882 9 1 1 75 C0 41 1 1 1 1 1 1 1 1 1 1 1 1 1 1 1 1 1 1",
      "1 1 1 1 1 1 1 1 1 1 1 1 1 1 1 1 1 1 1 1 1 1 1 1 1 1 1 1 1 1 1 1 1 1 1 1 1 1 1 1 1 1",
      "1 1 1 1 1 1 1 1 1 1 1 1 1 1 1 1 1 1 1 1 1 1 1 1 1 1 1 1 1 1 1 1 1 1 1 1 1 1 1 1 1 1",
      "1 1 1 1 1 1 1 1 1 1 1 1 1 1 1 1 1 1 1 1 1 1 1 1 1 1 1 1 1 1 1 1 1 1 1 1 1 1 1 1 1 1",
      "1 1 1 1 9 1 1 1 1 1 1 1 1 1 1 1 1 1 1 1 1 1 1 1 1 1 1 1 1 1 1 1 1 1 1 1 1 1 1 1 1 1",
      "1 1 1 1 1 1 1 1 1 1 1 1 1 1 1 1 1 1 1 1 1 1 1 1 1 1 1 1 1 1 1 1 1 1 1 1 1 1 1 1 1 1",
      "1 1 1 1 1 1 1 1 1 1 1 1 1 1 1 1 1 1 9 8 6 A 8 8 8 8 6 A 8 8 8 8 E 2 8 8 8 8 8 8 5 1",
      "2 6 1 3 3 1 2 8 4 2 2 8 8 A 3 1 2 79 1 D 1 10 D 6D 1 3 2 3 1 1B 1 4 1 4 1 2 2 8 4 4",
      "1 21 10 4 1 34B 1A 746 30 1 1 3 2 1 1 1 1 1 1 4 1 1 2 1 8 3 1 1 1 1 1 1 1 1 1 1 1 1",
      "1 1 1 1 1 1 1 1 1 1 1 1 1 1 1 1 1 1 1 1 1 1 1 1 1 1 1 1 1 1 1 1 1 1 1 1 1 1 1 1 1 1",
      "1 1 1 1 1 1 1 1 1 1 1 1 1 1 1 1 1 1 1 1 1 1 1 1 1 1 1 1 1 1 1 1 1 1 1 1 1 1 1 1 1 1",
      "1 1 2 7 1 1 1 4 1 C 26 1 1 5 1 7913 1 1 1 1 1 1 1 1 1 1 1 1 1 1 1 1 1 1 1 1 1 1 1 1",
      "1 1 1 1 1 1 1 1 1 1 1 1 1 1 1 1 1 1 1 1 1 13 1 1 1 1 1 1 1 1 1 1 1 1 1 1 1 1 1 1 1 1",
      "1 1 1 1 1 1 3 85 1 1 1 1 1 1 1 1 1 1 1 1 3 1 1 1 1 1 1 1 1 1 1 1 1 1 1 1 1 1 1 1 1 1",
      "1 1 1 1 1 1 1 1 1 1 1 1 1 1 1 1 1 1 1 1 1 1 1 1 1 1 1 1 1 1 1 1 1 1 1 1 1 1 1 1 A 1",
      "1 1 1 2 1 1 1 1 1 1 1 1 1 4 1 1 1 2 1 1 3 1 1 1 1 1 1 1 1 1 1 1 1 1 1 1 1 1 1 1 1 5",
      "1 5 1 1 1 1 1 1 1 1 1 1 1 1 1 1 1 4 1 1 1 2 1 3 1 1 1 1 1 1 1 1 1 1 1 16 3 1 1 1 3",
      "335 2B 1 E 6 50 4F40 7 C 5 429 1A 4CD 28 88 24 9B B 1 F 1 7 1 2 1C3 1 2 3 1 2A 1 9",
      "505 33 7D 16 B3A 20 5580 20 659A 1A 1A 7 1 12 1A 1A 1A 4 1 1 1 7 1 B 1A 1A 1A 1A 1A",
      "1A 1A 1A 1A 1A 1A 1A 1A 1A 1A 1A 1A 1C 1C 19 1 6 1A 19 1 6 1A 19 1 6 1A 19 1 6 1A 19",
      "1 6 1 1 734 A 1 14 6 6 105 3E 8B4 22"]⟩,
  ⟨["nu", "numeric"], [
      "30 A 626 A 1 2 83 A C6 A 19C A 76 A 76 A 76 A 76 A 76 A 76 A 76 A 76 A 76 A 60 A 76",
      "A 46 A 116 A 46 A 746 A 26 A 12C A 80 A A6 A 6 A B6 A 56 A 86 A 6 A 89C6 A 2A6 A 26",
      "A C6 A 16 A 56 A 196 A 5316 A 586 A 886 A 6 A 31C A 80 A 3C A 90 A 116 A 156 A 76 A",
      "176 A 66 A 6 14 4C A 1A6 A 66 A 296 A 56 A F6 A 46 A 1A6 A 41D6 A 926 A 56 A 86 A",
      "216 A 5F76 A AD4 32 940 A 1A6 A 1F6 A F7 A 355 A 1296 A"]⟩,
  ⟨["sc", "scontinue"], [
      "2C 2 C 1 522 1 AE 2 1EA 1 1009 1 5 1 80A 2 FEC 1 CE0E 2 1 1 1D 2 1D 2 3 1 2 1 A 1 A8",
      "2 C 1 49 1"]⟩,
  ⟨["se", "sep"], [
      "85 1 1FA2 2"]⟩,
  ⟨["sp"], [
      "9 1 1 2 13 1 7F 1 15DF 1 97F B 24 1 2F 1 FA0 1"]⟩,
  ⟨["st", "sterm"], [
      "21 1 1D 1 549 1 93 3 B4 1 2B 3 F6 1 3D 1 1 1 3 2 125 2 6E4 2 316 1 4 2 305 1 C6 2 CC",
      "1 5 1 13A 2 162 4 A2 2 A 2 2 2 1D 3 BB 2 41 2 3BC 2 9 3 DE4 1 D 1 16 2 1AD 1 74FC 1",
      "10E 2 E3 1 3 1 17E 2 56 2 5F 1 98 2 93 3 90 2 F9 1 526A 2 A9 1 1D 1 41 1 AF4 2 4FD 5",
      "2C 4 BD 2 75 4 7F 3 81 2 6 1 10 2 58 2 1 2 6C 1 12A 2 75 2 175 2 5 F 69 2 F9 3 205 1",
      "1 1 FB 2 57 2 1A4 2 2B4 2 4A 2 4B29 2 85 1 41 2 B 1 229 2 128 1 4E06 1 1DE8 1"]⟩,
  ⟨["up", "upper"], [
      "41 1A 65 17 1 7 21 1 1 1 1 1 1 1 1 1 1 1 1 1 1 1 1 1 1 1 1 1 1 1 1 1 1 1 1 1 1 1 1 1",
      "1 1 1 1 1 1 1 1 1 1 1 1 1 1 1 1 1 1 1 1 1 1 2 1 1 1 1 1 1 1 1 1 1 1 1 1 1 1 2 1 1 1",
      "1 1 1 1 1 1 1 1 1 1 1 1 1 1 1 1 1 1 1 1 1 1 1 1 1 1 1 1 1 1 1 1 1 1 1 1 1 1 1 1 1 1",
      "1 2 1 1 1 1 3 2 1 1 1 2 1 3 2 4 1 2 1 3 3 2 1 2 1 1 1 1 1 2 1 1 2 1 1 2 1 3 1 1 1 2",
      "3 1 7 2 1 2 1 2 1 1 1 1 1 1 1 1 1 1 1 1 1 1 1 1 2 1 1 1 1 1 1 1 1 1 1 1 1 1 1 1 1 1",
      "2 2 1 1 1 3 1 1 1 1 1 1 1 1 1 1 1 1 1 1 1 1 1 1 1 1 1 1 1 1 1 1 1 1 1 1 1 1 1 1 1 1",
      "1 1 1 1 1 1 1 1 1 1 1 1 1 1 1 1 1 1 1 1 1 1 7 2 1 2 2 1 1 4 1 1 1 1 1 1 1 1 121 1 1",
      "1 3 1 8 1 6 1 1 3 1 1 1 2 1 11 1 9 23 1 2 3 3 1 1 1 1 1 1 1 1 1 1 1 1 1 1 1 1 1 1 1",
      "1 1 1 1 5 1 2 1 1 2 2 33 30 1 1 1 1 1 1 1 1 1 1 1 1 1 1 1 1 1 1 1 1 1 1 1 1 1 1 1 1",
      "1 1 1 1 1 9 1 1 1 1 1 1 1 1 1 1 1 1 1 1 1 1 1 1 1 1 1 1 1 1 1 1 1 1 1 1 1 1 1 1 1 1",
      "1 1 1 1 1 1 1 1 1 1 1 1 1 1 1 1 1 1 2 1 1 1 1 1 1 1 1 1 1 1 1 2 1 1 1 1 1 1 1 1 1 1",
      "1 1 1 1 1 1 1 1 1 1 1 1 1 1 1 1 1 1 1 1 1 1 1 1 1 1 1 1 1 1 1 1 1 1 1 1 1 1 1 1 1 1",
      "1 1 1 1 1 1 1 1 1 1 1 1 1 1 1 1 1 1 1 1 1 1 1 1 1 1 1 1 1 1 1 1 1 1 1 1 1 1 1 1 1 1",
      "1 2 26 B49 26 1 1 5 1 2D2 56 893 1 176 1 1 1 1 1 1 1 1 1 1 1 1 1 1 1 1 1 1 1 1 1 1 1",
      "1 1 1 1 1 1 1 1 1 1 1 1 1 1 1 1 1 1 1 1 1 1 1 1 1 1 1 1 1 1 1 1 1 1 1 1 1 1 1 1 1 1",
      "1 1 1 1 1 1 1 1 1 1 1 1 1 1 1 1 1 1 1 1 1 1 1 1 1 1 1 1 1 1 1 1 1 1 1 1 1 1 1 1 1 1",
      "1 1 1 1 1 1 1 1 1 1 1 1 1 1 1 1 1 1 1 1 1 1 1 1 1 1 1 1 1 1 1 1 1 1 1 1 1 1 1 1 1 1",
      "9 1 1 1 1 1 1 1 1 1 1 1 1 1 1 1 1 1 1 1 1 1 1 1 1 1 1 1 1 1 1 1 1 1 1 1 1 1 1 1 1 1",
      "1 1 1 1 1 1 1 1 1 1 1 1 1 1 1 1 1 1 1 1 1 1 1 1 1 1 1 1 1 1 1 1 1 1 1 1 1 1 1 1 1 1",
      "1 1 1 1 1 1 1 1 1 1 1 1 1 1 9 8 8 6 A 8 8 8 8 6 B 1 1 1 1 1 1 1 8 8 18 8 8 8 8 8 8 5",
      "B 5 B 4 C 5 B 5 105 1 4 1 3 3 2 3 2 1 3 5 6 1 1 1 1 1 1 4 2 4 A 2 5 1 1A 10 13 1 332",
      "1A 730 30 30 1 1 3 2 1 1 1 1 1 1 4 1 1 2 1 8 3 1 1 1 1 1 1 1 1 1 1 1 1 1 1 1 1 1 1 1",
      "1 1 1 1 1 1 1 1 1 1 1 1 1 1 1 1 1 1 1 1 1 1 1 1 1 1 1 1 1 1 1 1 1 1 1 1 1 1 1 1 1 1",
      "1 1 1 1 1 1 1 1 1 1 1 1 1 1 1 1 1 1 1 1 1 1 1 1 1 1 1 1 1 1 1 1 1 1 1 1 1 8 1 1 1 4",
      "1 794D 1 1 1 1 1 1 1 1 1 1 1 1 1 1 1 1 1 1 1 1 1 1 1 1 1 1 1 1 1 1 1 1 1 1 1 1 1 1 1",
      "1 1 1 1 1 1 13 1 1 1 1 1 1 1 1 1 1 1 1 1 1 1 1 1 1 1 1 1 1 1 1 1 1 1 87 1 1 1 1 1 1",
      "1 1 1 1 1 1 1 3 1 1 1 1 1 1 1 1 1 1 1 1 1 1 1 1 1 1 1 1 1 1 1 1 1 1 1 1 1 1 1 1 1 1",
      "1 1 1 1 1 1 1 1 1 1 1 1 1 1 1 1 1 1 1 1 1 1 1 1 1 1 1 A 1 1 1 1 2 1 1 1 1 1 1 1 1 4",
      "1 1 1 2 1 1 1 3 1 1 1 1 1 1 1 1 1 1 1 1 1 1 1 1 1 1 1 1 5 1 5 1 1 1 1 1 1 1 1 1 1 1",
      "1 1 1 1 4 1 1 1 2 3 1 5 1 1 1 1 1 1 1 18 1 572B 1A 4C5 28 88 24 9C B 1 F 1 7 1 2 6EA",
      "33 9D 16 B3A 20 5580 20 65A0 1A 1A 1A 1A 1A 1A 1 1 2 2 1 2 2 2 4 1 8 1A 1A 1A 2 1 4",
      "2 8 1 7 1B 2 1 4 1 5 1 1 3 7 1B 1A 1A 1A 1A 1A 1A 1A 1A 1A 1A 1A 1E 19 21 19 21 19",
      "21 19 21 19 21 1 1135 22 80E 1A 6 1A 6 1A"]⟩]

end CosmeticRules.Text
