import Terradoc.Text.Runs

namespace Terradoc.Text

def scriptArabic : String := String.join [
  "600 5 1 6 1 e 1 3 1 20 1 a b 1a 1 6c 1 22 50 30 f0 1f 1 2 6 4a 1 1d f250 73 10 16b 2 50 2 ",
  "36 7 1 20 10 70 5 1 87 f63 1f 7e 3 df00 4 1 1b 1 2 1 1 2 1 1 a 1 4 1 1 1 1 6 1 4 1 1 1 1 1 ",
  "1 3 1 2 1 1 2 1 1 1 1 1 1 1 1 1 1 2 1 1 2 4 1 7 1 4 1 4 1 1 1 a 1 11 5 3 1 5 1 11 34 2"]

def scriptArmenian : String := String.join [
  "531 26 2 32 2 3 f583 5"]

def scriptCommon : String := String.join [
  "0 41 1a 6 1a 2f 1 f 1 5 17 1 1f 1 1c1 27 5 5 2 14 74 1 9 1 6 1 1 1 27d 1 6 1 e 1 3 1 20 1 ",
  "9c 1 204 1 81 2 4d9 1 195 4 122 1 5ef 3 47 2 cb 2 1 1 4cd 1 d 1 7 4 1 6 1 3 2 1 305 c 2 57 ",
  "1 b 3 b 1 f 11 21 3f 26 1 3 2 6 1 1b 1 11 29 3 4 297 19 b 15 3a0 100 274 2 20 1 69 200 5e ",
  "192 c 4 5 1 1 1 19 f 8 4 4 5b 2 3 1 5a 2 93 10 20 24 3c 40 1f 51 2f 1 58 a8 19c0 40 5900 22 ",
  "66 3 a5 a f4 1 a0 1 18b 1 e 2 51d2 2 d0 a 16 23 1 13 1 4 93 1 1 20 1a 6 1a b a 1 2d 2 40 7 ",
  "1 7 a 5 102 3 4 2d 3 9 50 d 33 2d e4 1b b9a4 4 12ac 74 3c f6 a 27 2 3e 3 11 8 2 7 1e 4 3d ",
  "d5 14 c 14 c 57 9 19 87 55 1 47 1 2 2 1 2 2 2 4 1 c 1 1 1 7 1 41 1 4 2 8 1 7 1 1c 1 4 1 5 1 ",
  "1 3 7 1 154 2 124 2 32 1471 44 4c 3d 2c2 2c 4 64 c f 2 f 1 f 1 25 a ae 38 1a 1 2 d 2c 4 9 7 ",
  "2 e 6 9a 3d8 4 11 3 d 3 77 4 5f 6 c 4 1 f c 4 38 8 a 6 28 8 1e 2 2 4e 154 c e 2 d 3 9 7 2e ",
  "1 7 8 e 4 9 7 9 7 93 1 37 25 a c0407 1 1e 60"]

def scriptCyrillic : String := String.join [
  "400 85 2 a9 1750 9 a2 1 4c 1 1067 20 7840 60 578e 2 e200 3e 21 1"]

def scriptDevanagari : String := String.join [
  "900 51 4 f 2 1a 9f60 20 7200 a"]

def scriptGeorgian : String := String.join [
  "10a0 26 1 1 5 1 2 2b 1 4 b90 2b 2 3 1040 26 1 1 5 1"]

def scriptGreek : String := String.join [
  "370 4 1 3 2 4 1 1 4 1 1 1 1 3 1 1 1 14 1 3f e 10 1926 5 32 5 4 5 54 1 140 16 2 6 2 26 2 6 2 ",
  "8 1 1 1 1 1 1 1 1f 2 35 1 f 1 e 2 6 1 13 2 3 1 9 127 1 8a3e 1 55da 4f 11 1 d05f 46"]

def scriptHan : String := String.join [
  "2e80 1a 1 59 c d6 2f 1 1 1 19 9 e 4 3c4 19c0 40 5200 5900 16e 2 6a 7508 2 c 2 900e a6e0 20 ",
  "103a 6 de 2 1682 e 1d31 c1f 21e 5e2 134b 5 1060"]

def scriptHangul : String := String.join [
  "1100 100 1e2e 2 101 5e 71 1f 41 1f 76e1 1d 283 2ba4 c 17 4 31 27a4 1f 3 6 2 6 2 6 2 3"]

def scriptHebrew : String := String.join [
  "591 37 8 1b 4 6 f528 1a 1 5 1 1 1 2 1 2 1 a"]

def scriptHiragana : String := String.join [
  "3041 56 6 3 17f61 11f 12 1 1d 3 40ad 1"]

def scriptInherited : String := String.join [
  "300 70 115 2 1c4 b 1a 1 2e0 4 115b 1f 201 3 1 d 1 7 4 1 6 1 3 2 c6 40 20c 2 c2 21 f39 4 6b ",
  "2 cd65 10 10 e 3cf 1 e2 1 105a 1 bbc4 2e 2 17 220 3 11 8 2 7 1e 4 c2f52 f0"]

def scriptKatakana : String := String.join [
  "30a1 5a 2 3 f0 10 d0 2f 1 58 cc0e a 1 2d b052 4 1 7 1 2 1 1 11f 3 32 1 e 4"]

def scriptLatin : String := String.join [
  "41 1a 6 1a 2f 1 f 1 5 17 1 1f 1 1c1 27 5 1a1b 26 6 31 5 4 5 d 1 46 41 100 171 1 d 1 10 d 8d ",
  "2 6 1 1b 1 11 29 ad7 20 7aa2 66 3 40 5 2 1 1 1 5 18 e 330 2b 1 9 1 4 4f96 7 41a 1a 6 1a 825 ",
  "6 1 2a 1 9 d745 1f 6 6"]

def scriptThai : String := String.join [
  "e01 3a 5 1c"]

def scriptRuns : List (String × List Run) := [
  ("arabic", runsOf scriptArabic),
  ("armenian", runsOf scriptArmenian),
  ("common", runsOf scriptCommon),
  ("cyrillic", runsOf scriptCyrillic),
  ("devanagari", runsOf scriptDevanagari),
  ("georgian", runsOf scriptGeorgian),
  ("greek", runsOf scriptGreek),
  ("han", runsOf scriptHan),
  ("hangul", runsOf scriptHangul),
  ("hebrew", runsOf scriptHebrew),
  ("hiragana", runsOf scriptHiragana),
  ("inherited", runsOf scriptInherited),
  ("katakana", runsOf scriptKatakana),
  ("latin", runsOf scriptLatin),
  ("thai", runsOf scriptThai)]

end Terradoc.Text
