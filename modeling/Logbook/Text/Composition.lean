import Logbook.Text.Combining

/-!
# Composed characters

A letter with marks may be written as one character or as several. In the composed form marks stand
in the order of their classes, and a letter and a mark are one character wherever there is one for
both. Characters that are only another way to write one other character are left as they are.
-/

set_option autoImplicit false

namespace Logbook

namespace Composition

/-! ## Pairs -/

/-- Characters with the two characters that they are composed of. -/
def pairLines : List String :=
  ["c0P:41.300 P:41.301 P:41.302 P:41.303 P:41.308 P:41.30a 1P:43.327 P:45.300 P:45.301 P:45.302",
    "P:45.308 P:49.300 P:49.301 P:49.302 P:49.308 1P:4e.303 P:4f.300 P:4f.301 P:4f.302 P:4f.303",
    "P:4f.308 2P:55.300 P:55.301 P:55.302 P:55.308 P:59.301 2P:61.300 P:61.301 P:61.302 P:61.303",
    "P:61.308 P:61.30a 1P:63.327 P:65.300 P:65.301 P:65.302 P:65.308 P:69.300 P:69.301 P:69.302",
    "P:69.308 1P:6e.303 P:6f.300 P:6f.301 P:6f.302 P:6f.303 P:6f.308 2P:75.300 P:75.301 P:75.302",
    "P:75.308 P:79.301 1P:79.308 P:41.304 P:61.304 P:41.306 P:61.306 P:41.328 P:61.328 P:43.301",
    "P:63.301 P:43.302 P:63.302 P:43.307 P:63.307 P:43.30c P:63.30c P:44.30c P:64.30c 2P:45.304",
    "P:65.304 P:45.306 P:65.306 P:45.307 P:65.307 P:45.328 P:65.328 P:45.30c P:65.30c P:47.302",
    "P:67.302 P:47.306 P:67.306 P:47.307 P:67.307 P:47.327 P:67.327 P:48.302 P:68.302 2P:49.303",
    "P:69.303 P:49.304 P:69.304 P:49.306 P:69.306 P:49.328 P:69.328 P:49.307 3P:4a.302 P:6a.302",
    "P:4b.327 P:6b.327 1P:4c.301 P:6c.301 P:4c.327 P:6c.327 P:4c.30c P:6c.30c 4P:4e.301 P:6e.301",
    "P:4e.327 P:6e.327 P:4e.30c P:6e.30c 3P:4f.304 P:6f.304 P:4f.306 P:6f.306 P:4f.30b P:6f.30b",
    "2P:52.301 P:72.301 P:52.327 P:72.327 P:52.30c P:72.30c P:53.301 P:73.301 P:53.302 P:73.302",
    "P:53.327 P:73.327 P:53.30c P:73.30c P:54.327 P:74.327 P:54.30c P:74.30c 2P:55.303 P:75.303",
    "P:55.304 P:75.304 P:55.306 P:75.306 P:55.30a P:75.30a P:55.30b P:75.30b P:55.328 P:75.328",
    "P:57.302 P:77.302 P:59.302 P:79.302 P:59.308 P:5a.301 P:7a.301 P:5a.307 P:7a.307 P:5a.30c",
    "P:7a.30c 21P:4f.31b P:6f.31b dP:55.31b P:75.31b 1cP:41.30c P:61.30c P:49.30c P:69.30c",
    "P:4f.30c P:6f.30c P:55.30c P:75.30c P:dc.304 P:fc.304 P:dc.301 P:fc.301 P:dc.30c P:fc.30c",
    "P:dc.300 P:fc.300 1P:c4.304 P:e4.304 P:226.304 P:227.304 P:c6.304 P:e6.304 2P:47.30c",
    "P:67.30c P:4b.30c P:6b.30c P:4f.328 P:6f.328 P:1ea.304 P:1eb.304 P:1b7.30c P:292.30c",
    "P:6a.30c 3P:47.301 P:67.301 2P:4e.300 P:6e.300 P:c5.301 P:e5.301 P:c6.301 P:e6.301 P:d8.301",
    "P:f8.301 P:41.30f P:61.30f P:41.311 P:61.311 P:45.30f P:65.30f P:45.311 P:65.311 P:49.30f",
    "P:69.30f P:49.311 P:69.311 P:4f.30f P:6f.30f P:4f.311 P:6f.311 P:52.30f P:72.30f P:52.311",
    "P:72.311 P:55.30f P:75.30f P:55.311 P:75.311 P:53.326 P:73.326 P:54.326 P:74.326 2P:48.30c",
    "P:68.30c 6P:41.307 P:61.307 P:45.327 P:65.327 P:d6.304 P:f6.304 P:d5.304 P:f5.304 P:4f.307",
    "P:6f.307 P:22e.304 P:22f.304 P:59.304 P:79.304 151P:a8.301 P:391.301 1P:395.301 P:397.301",
    "P:399.301 1P:39f.301 1P:3a5.301 P:3a9.301 P:3ca.301 19P:399.308 P:3a5.308 P:3b1.301",
    "P:3b5.301 P:3b7.301 P:3b9.301 P:3cb.301 19P:3b9.308 P:3c5.308 P:3bf.301 P:3c5.301 P:3c9.301",
    "4P:3d2.301 P:3d2.308 2bP:415.300 P:415.308 1P:413.301 3P:406.308 4P:41a.301 P:418.300",
    "P:423.306 aP:418.306 1fP:438.306 16P:435.300 P:435.308 1P:433.301 3P:456.308 4P:43a.301",
    "P:438.300 P:443.306 17P:474.30f P:475.30f 49P:416.306 P:436.306 dP:410.306 P:430.306",
    "P:410.308 P:430.308 2P:415.306 P:435.306 2P:4d8.308 P:4d9.308 P:416.308 P:436.308 P:417.308",
    "P:437.308 2P:418.304 P:438.304 P:418.308 P:438.308 P:41e.308 P:43e.308 2P:4e8.308 P:4e9.308",
    "P:42d.308 P:44d.308 P:423.304 P:443.304 P:423.308 P:443.308 P:423.30b P:443.30b P:427.308",
    "P:447.308 2P:42b.308 P:44b.308 128P:627.653 P:627.654 P:648.654 P:627.655 P:64a.654",
    "99P:6d5.654 1P:6c1.654 10P:6d2.654 255P:928.93c 7P:930.93c 2P:933.93c 96P:9c7.9be P:9c7.9d7",
    "17bP:b47.b56 2P:b47.b3e P:b47.b57 47P:b92.bd7 35P:bc6.bbe P:bc7.bbe P:bc6.bd7 7bP:c46.c56",
    "77P:cbf.cd5 6P:cc6.cd5 P:cc6.cd6 1P:cc6.cc2 P:cca.cd5 7eP:d46.d3e P:d47.d3e P:d46.d57",
    "8dP:dd9.dca 1P:dd9.dcf P:ddc.dca P:dd9.ddf 247P:1025.102e adfP:1b05.1b35 1P:1b07.1b35",
    "1P:1b09.1b35 1P:1b0b.1b35 1P:1b0d.1b35 3P:1b11.1b35 28P:1b3a.1b35 1P:1b3c.1b35 2P:1b3e.1b35",
    "P:1b3f.1b35 1P:1b42.1b35 2bcP:41.325 P:61.325 P:42.307 P:62.307 P:42.323 P:62.323 P:42.331",
    "P:62.331 P:c7.301 P:e7.301 P:44.307 P:64.307 P:44.323 P:64.323 P:44.331 P:64.331 P:44.327",
    "P:64.327 P:44.32d P:64.32d P:112.300 P:113.300 P:112.301 P:113.301 P:45.32d P:65.32d",
    "P:45.330 P:65.330 P:228.306 P:229.306 P:46.307 P:66.307 P:47.304 P:67.304 P:48.307 P:68.307",
    "P:48.323 P:68.323 P:48.308 P:68.308 P:48.327 P:68.327 P:48.32e P:68.32e P:49.330 P:69.330",
    "P:cf.301 P:ef.301 P:4b.301 P:6b.301 P:4b.323 P:6b.323 P:4b.331 P:6b.331 P:4c.323 P:6c.323",
    "P:1e36.304 P:1e37.304 P:4c.331 P:6c.331 P:4c.32d P:6c.32d P:4d.301 P:6d.301 P:4d.307",
    "P:6d.307 P:4d.323 P:6d.323 P:4e.307 P:6e.307 P:4e.323 P:6e.323 P:4e.331 P:6e.331 P:4e.32d",
    "P:6e.32d P:d5.301 P:f5.301 P:d5.308 P:f5.308 P:14c.300 P:14d.300 P:14c.301 P:14d.301",
    "P:50.301 P:70.301 P:50.307 P:70.307 P:52.307 P:72.307 P:52.323 P:72.323 P:1e5a.304",
    "P:1e5b.304 P:52.331 P:72.331 P:53.307 P:73.307 P:53.323 P:73.323 P:15a.307 P:15b.307",
    "P:160.307 P:161.307 P:1e62.307 P:1e63.307 P:54.307 P:74.307 P:54.323 P:74.323 P:54.331",
    "P:74.331 P:54.32d P:74.32d P:55.324 P:75.324 P:55.330 P:75.330 P:55.32d P:75.32d P:168.301",
    "P:169.301 P:16a.308 P:16b.308 P:56.303 P:76.303 P:56.323 P:76.323 P:57.300 P:77.300 P:57.301",
    "P:77.301 P:57.308 P:77.308 P:57.307 P:77.307 P:57.323 P:77.323 P:58.307 P:78.307 P:58.308",
    "P:78.308 P:59.307 P:79.307 P:5a.302 P:7a.302 P:5a.323 P:7a.323 P:5a.331 P:7a.331 P:68.331",
    "P:74.308 P:77.30a P:79.30a 1P:17f.307 4P:41.323 P:61.323 P:41.309 P:61.309 P:c2.301 P:e2.301",
    "P:c2.300 P:e2.300 P:c2.309 P:e2.309 P:c2.303 P:e2.303 P:1ea0.302 P:1ea1.302 P:102.301",
    "P:103.301 P:102.300 P:103.300 P:102.309 P:103.309 P:102.303 P:103.303 P:1ea0.306 P:1ea1.306",
    "P:45.323 P:65.323 P:45.309 P:65.309 P:45.303 P:65.303 P:ca.301 P:ea.301 P:ca.300 P:ea.300",
    "P:ca.309 P:ea.309 P:ca.303 P:ea.303 P:1eb8.302 P:1eb9.302 P:49.309 P:69.309 P:49.323",
    "P:69.323 P:4f.323 P:6f.323 P:4f.309 P:6f.309 P:d4.301 P:f4.301 P:d4.300 P:f4.300 P:d4.309",
    "P:f4.309 P:d4.303 P:f4.303 P:1ecc.302 P:1ecd.302 P:1a0.301 P:1a1.301 P:1a0.300 P:1a1.300",
    "P:1a0.309 P:1a1.309 P:1a0.303 P:1a1.303 P:1a0.323 P:1a1.323 P:55.323 P:75.323 P:55.309",
    "P:75.309 P:1af.301 P:1b0.301 P:1af.300 P:1b0.300 P:1af.309 P:1b0.309 P:1af.303 P:1b0.303",
    "P:1af.323 P:1b0.323 P:59.300 P:79.300 P:59.323 P:79.323 P:59.309 P:79.309 P:59.303 P:79.303",
    "6P:3b1.313 P:3b1.314 P:1f00.300 P:1f01.300 P:1f00.301 P:1f01.301 P:1f00.342 P:1f01.342",
    "P:391.313 P:391.314 P:1f08.300 P:1f09.300 P:1f08.301 P:1f09.301 P:1f08.342 P:1f09.342",
    "P:3b5.313 P:3b5.314 P:1f10.300 P:1f11.300 P:1f10.301 P:1f11.301 2P:395.313 P:395.314",
    "P:1f18.300 P:1f19.300 P:1f18.301 P:1f19.301 2P:3b7.313 P:3b7.314 P:1f20.300 P:1f21.300",
    "P:1f20.301 P:1f21.301 P:1f20.342 P:1f21.342 P:397.313 P:397.314 P:1f28.300 P:1f29.300",
    "P:1f28.301 P:1f29.301 P:1f28.342 P:1f29.342 P:3b9.313 P:3b9.314 P:1f30.300 P:1f31.300",
    "P:1f30.301 P:1f31.301 P:1f30.342 P:1f31.342 P:399.313 P:399.314 P:1f38.300 P:1f39.300",
    "P:1f38.301 P:1f39.301 P:1f38.342 P:1f39.342 P:3bf.313 P:3bf.314 P:1f40.300 P:1f41.300",
    "P:1f40.301 P:1f41.301 2P:39f.313 P:39f.314 P:1f48.300 P:1f49.300 P:1f48.301 P:1f49.301",
    "2P:3c5.313 P:3c5.314 P:1f50.300 P:1f51.300 P:1f50.301 P:1f51.301 P:1f50.342 P:1f51.342",
    "1P:3a5.314 1P:1f59.300 1P:1f59.301 1P:1f59.342 P:3c9.313 P:3c9.314 P:1f60.300 P:1f61.300",
    "P:1f60.301 P:1f61.301 P:1f60.342 P:1f61.342 P:3a9.313 P:3a9.314 P:1f68.300 P:1f69.300",
    "P:1f68.301 P:1f69.301 P:1f68.342 P:1f69.342 P:3b1.300 1P:3b5.300 1P:3b7.300 1P:3b9.300",
    "1P:3bf.300 1P:3c5.300 1P:3c9.300 3P:1f00.345 P:1f01.345 P:1f02.345 P:1f03.345 P:1f04.345",
    "P:1f05.345 P:1f06.345 P:1f07.345 P:1f08.345 P:1f09.345 P:1f0a.345 P:1f0b.345 P:1f0c.345",
    "P:1f0d.345 P:1f0e.345 P:1f0f.345 P:1f20.345 P:1f21.345 P:1f22.345 P:1f23.345 P:1f24.345",
    "P:1f25.345 P:1f26.345 P:1f27.345 P:1f28.345 P:1f29.345 P:1f2a.345 P:1f2b.345 P:1f2c.345",
    "P:1f2d.345 P:1f2e.345 P:1f2f.345 P:1f60.345 P:1f61.345 P:1f62.345 P:1f63.345 P:1f64.345",
    "P:1f65.345 P:1f66.345 P:1f67.345 P:1f68.345 P:1f69.345 P:1f6a.345 P:1f6b.345 P:1f6c.345",
    "P:1f6d.345 P:1f6e.345 P:1f6f.345 P:3b1.306 P:3b1.304 P:1f70.345 P:3b1.345 P:3ac.345",
    "1P:3b1.342 P:1fb6.345 P:391.306 P:391.304 P:391.300 1P:391.345 4P:a8.342 P:1f74.345",
    "P:3b7.345 P:3ae.345 1P:3b7.342 P:1fc6.345 P:395.300 1P:397.300 1P:397.345 P:1fbf.300",
    "P:1fbf.301 P:1fbf.342 P:3b9.306 P:3b9.304 P:3ca.300 3P:3b9.342 P:3ca.342 P:399.306 P:399.304",
    "P:399.300 2P:1ffe.300 P:1ffe.301 P:1ffe.342 P:3c5.306 P:3c5.304 P:3cb.300 1P:3c1.313",
    "P:3c1.314 P:3c5.342 P:3cb.342 P:3a5.306 P:3a5.304 P:3a5.300 1P:3a1.314 P:a8.300 4P:1f7c.345",
    "P:3c9.345 P:3ce.345 1P:3c9.342 P:1ff6.345 P:39f.300 1P:3a9.300 1P:3a9.345 19dP:2190.338",
    "P:2192.338 12P:2194.338 1eP:21d0.338 P:21d4.338 P:21d2.338 34P:2203.338 4P:2208.338",
    "2P:220b.338 17P:2223.338 1P:2225.338 1aP:223c.338 2P:2243.338 2P:2245.338 1P:2248.338",
    "16P:3d.338 1P:2261.338 aP:224d.338 P:3c.338 P:3e.338 P:2264.338 P:2265.338 2P:2272.338",
    "P:2273.338 2P:2276.338 P:2277.338 6P:227a.338 P:227b.338 2P:2282.338 P:2283.338 2P:2286.338",
    "P:2287.338 22P:22a2.338 P:22a8.338 P:22a9.338 P:22ab.338 30P:227c.338 P:227d.338 P:2291.338",
    "P:2292.338 6P:22b2.338 P:22b3.338 P:22b4.338 P:22b5.338 d5eP:304b.3099 1P:304d.3099",
    "1P:304f.3099 1P:3051.3099 1P:3053.3099 1P:3055.3099 1P:3057.3099 1P:3059.3099 1P:305b.3099",
    "1P:305d.3099 1P:305f.3099 1P:3061.3099 2P:3064.3099 1P:3066.3099 1P:3068.3099 6P:306f.3099",
    "P:306f.309a 1P:3072.3099 P:3072.309a 1P:3075.3099 P:3075.309a 1P:3078.3099 P:3078.309a",
    "1P:307b.3099 P:307b.309a 16P:3046.3099 9P:309d.3099 dP:30ab.3099 1P:30ad.3099 1P:30af.3099",
    "1P:30b1.3099 1P:30b3.3099 1P:30b5.3099 1P:30b7.3099 1P:30b9.3099 1P:30bb.3099 1P:30bd.3099",
    "1P:30bf.3099 1P:30c1.3099 2P:30c4.3099 1P:30c6.3099 1P:30c8.3099 6P:30cf.3099 P:30cf.309a",
    "1P:30d2.3099 P:30d2.309a 1P:30d5.3099 P:30d5.309a 1P:30d8.3099 P:30d8.309a 1P:30db.3099",
    "P:30db.309a 16P:30a6.3099 2P:30ef.3099 P:30f0.3099 P:30f1.3099 P:30f2.3099 3P:30fd.3099",
    "d4caP:105d2.307 1aP:105da.307 ab5P:11099.110ba 1P:1109b.110ba eP:110a5.110ba 82P:11131.11127",
    "P:11132.11127 21bP:11347.1133e P:11347.11357 36P:11382.113c9 1P:11384.113bb 8P:1138b.113c2",
    "2P:11390.113c9 33P:113c2.113c2 1P:113c2.113b8 P:113c2.113c9 f2P:114b9.114ba P:114b9.114b0",
    "1P:114b9.114bd fbP:115b8.115af P:115b9.115af 37cP:11935.11930 47e8P:1611e.1611e",
    "P:1611e.16129 P:1611e.1611f P:16129.1611f P:1611e.16120 P:16121.1611f P:16122.1611f",
    "P:16121.16120 c3fP:16d67.16d67 P:16d63.16d67 P:16d69.16d67"]

/-- The composed characters. -/
def pairRuns : List CharRun := CharRun.ofLines pairLines

/-- The two characters that a syllable of three letters, or of two, is composed of. -/
def syllableParts? (c : Char) : Option (Char × Char) :=
  if 0xAC00 ≤ c.toNat ∧ c.toNat ≤ 0xD7A3 then
    let place := c.toNat - 0xAC00
    if place % 28 = 0 then
      some (Char.ofNat (0x1100 + place / 588), Char.ofNat (0x1161 + place % 588 / 28))
    else some (Char.ofNat (c.toNat - place % 28), Char.ofNat (0x11A7 + place % 28))
  else none

/-- The syllable that two characters make. -/
def syllable? (a b : Char) : Option Char :=
  let lead := a.toNat - 0x1100
  let vowel := b.toNat - 0x1161
  if 0x1100 ≤ a.toNat ∧ lead < 19 ∧ 0x1161 ≤ b.toNat ∧ vowel < 21 then
    some (Char.ofNat (0xAC00 + (lead * 21 + vowel) * 28))
  else if 0xAC00 ≤ a.toNat ∧ a.toNat ≤ 0xD7A3 ∧ (a.toNat - 0xAC00) % 28 = 0 ∧
      0x11A8 ≤ b.toNat ∧ b.toNat ≤ 0x11C2 then
    some (Char.ofNat (a.toNat + (b.toNat - 0x11A7)))
  else none

/-- The two characters that a character is composed of. -/
def parts? (c : Char) : Option (Char × Char) :=
  match syllableParts? c with
  | some parts => some parts
  | none =>
    match CharRun.find? pairRuns c with
    | some ⟨_, _, _, [a, b]⟩ => some (Char.ofNat a, Char.ofNat b)
    | _ => none

/-- The character that two characters compose. -/
def composed? (a b : Char) : Option Char :=
  match syllable? a b with
  | some c => some c
  | none =>
    (pairRuns.find? fun run => run.others == [a.toNat, b.toNat]).map fun run =>
      Char.ofNat run.first

/-! ## Taking apart -/

/-- How often a composed character is composed again, at most. -/
def maxDepth : Nat := 4

/-- The characters that a character is composed of in the end. -/
def takeApart : Nat → Char → List Char
  | 0, c => [c]
  | depth + 1, c =>
    match parts? c with
    | some (a, b) => takeApart depth a ++ [b]
    | none => [c]

/-- Puts a character before others; a mark goes behind those of lower classes. -/
def place (c : Char) : List Char → List Char
  | [] => [c]
  | d :: ds =>
    if 0 < combiningClass d ∧ combiningClass d < combiningClass c then d :: place c ds
    else c :: d :: ds

/-- Characters taken apart, with marks in the order of their classes. -/
def decompose (cs : List Char) : List Char := (cs.flatMap (takeApart maxDepth)).foldr place []

/-! ## Putting together -/

/-- Composes what follows a letter with it. `held` are the marks behind the letter that could not
be composed with it, the last one first; a mark is cut off from the letter by one of a class that
is not lower. -/
def join (letter : Char) (held : List Char) : List Char → List Char
  | [] => letter :: held.reverse
  | c :: cs =>
    let isFree := held.head?.all fun mark => combiningClass mark < combiningClass c
    match if isFree then composed? letter c else none with
    | some whole => join whole held cs
    | none =>
      if combiningClass c = 0 then letter :: held.reverse ++ join c [] cs
      else join letter (c :: held) cs

/-- Composes letters with the marks behind them. -/
def joinAll : List Char → List Char
  | [] => []
  | c :: cs => if combiningClass c = 0 then join c [] cs else c :: joinAll cs

/-- The composed form of characters. -/
def compose (cs : List Char) : List Char := joinAll (decompose cs)

end Composition

end Logbook
