import Logbook.Text.Runs

/-!
# Characters in names

What becomes of each character in the name of a host: it is kept, left out, replaced by others, or
not allowed at all.
-/

set_option autoImplicit false

namespace Logbook

namespace NameTable

/-- Runs of characters: kept (`V`), left out (`I`), replaced by as many neighbours (`M`; one
character alone also by several), all replaced by the same (`E`), or in turns replaced by the next
one and kept (`T`). All others are not allowed. -/
def lines : List String :=
  ["V40 M19:61 V24 20M:20 V6 M:20.308 V M:61 V1 I V M:20.304 V1 M1:32 M:20.301 M:3bc V1 M:20.327",
    "M:31 M:6f V M:31.2044.34 M:31.2044.32 M:33.2044.34 V M16:e0 V M6:f8 V20 T2f M:69.307 V",
    "E1:69.6a T3 V T5 E1:6c.b7 T7 M:2bc.6e T2d M:ff T5 M:73 V M:253 T3 M:254 M:188 V M1:256 M:18c",
    "V1 M:1dd M:259 M:25b M:192 V M:260 M:263 V M:269 M:268 M:199 V2 M:26f M:272 V M:275 T5 M:280",
    "M:1a8 V M:283 V1 M:1ad V M:288 M:1b0 V M1:28a T3 M:292 M:1b9 V2 M:1bd V6 E2:64.17e E2:6c.6a",
    "E2:6e.6a Tf V T11 V E2:64.7a M:1f5 V M:195 M:1bf T27 M:19e V T11 V5 M:2c65 M:23c V M:19a",
    "M:2c66 V1 M:242 V M:180 M:289 M:28c T9 V5f M:68 M:266 M:6a M:72 M:279 M:27b M:281 M:77 M:79",
    "V1e M:20.306 M:20.307 M:20.30a M:20.328 M:20.303 M:20.30b V1 M:263 M:6c M:73 M:78 M:295 V5a",
    "M1:300 V M:313 M:308.301 M:3b9 V8 I V1f T3 M:2b9 V M:377 V 2M:20.3b9 V2 M:3b M:3f3 4M:20.301",
    "M:20.308.301 M:3ac M:b7 M2:3ad 1M:3cc 1M1:3cd V M10:3b1 1M8:3c3 V22 M:3d7 M:3b2 M:3b8 M:3c5",
    "M:3cd M:3cb M:3c6 M:3c0 V T17 M:3ba M:3c1 M:3c3 V M:3b8 M:3b5 V M:3f8 V M:3c3 M:3fb V1",
    "M2:37b Mf:450 M1f:430 V2f T21 V7 T35 M:4cf Td V T5f 1M25:561 2V2d M:565.582 V2 2V2 1V36 8V1a",
    "4V5 11V15 1V57 M:627.674 M:648.674 M:6c7.674 M:64a.674 V63 1V2f 2V3a 2V64 eV3a 2V30 2Ve 1V1b",
    "2V 1Va 5V1f 7V4a 1V74 M:915.93c M:916.93c M:917.93c M:91c.93c M:921.93c M:922.93c M:92b.93c",
    "M:92f.93c V23 1V7 2V1 2V15 1V6 1V 3V3 2V8 2V1 2V3 8V 4M:9a1.9bc M:9a2.9bc 1M:9af.9bc V3 2V18",
    "2V2 1V5 4V1 2V15 1V6 1V M:a32.a3c 1V M:a38.a3c 1V1 2V 1V4 4V1 2V2 3V 7M:a16.a3c M:a17.a3c",
    "M:a1c.a3c V 1M:a2b.a3c 7V10 aV2 1V8 1V2 1V15 1V6 1V1 1V4 2V9 1V2 1V2 2V fV3 2Vb 7V6 1V2 1V7",
    "2V1 2V15 1V6 1V1 1V4 2V8 2V1 2V2 7V2 4M:b21.b3c M:b22.b3c 1V4 2V11 aV1 1V5 3V2 1V3 3V1 1V",
    "1V1 3V1 3V2 3Vb 4V4 3V2 1V3 2V 6V eV14 5Vc 1V2 1V16 1Vf 2V8 1V2 1V3 7V1 1V2 1V1 2V3 2V9 7V15",
    "1V2 1V16 1V9 1V4 2V8 1V2 1V3 7V1 5V2 1V3 2V9 1V2 cVc 1V2 1V32 1V2 1V5 4Vf 2V19 1V2 1V11 3V17",
    "1V8 1V 2V6 3V 4V5 1V 1V7 6V9 2V2 cV31 M:e4d.e32 V6 4V1c 25V1 1V 1V4 1V17 1V 1Vb M:ecd.eb2 V9",
    "2V4 1V 1V6 1V9 2M:eab.e99 M:eab.ea1 V1 20Vb M:f0b V35 M:f42.fb7 V3 1V3 M:f4c.fb7 V3",
    "M:f51.fb7 V3 M:f56.fb7 V3 M:f5b.fb7 Vb M:f40.fb5 V2 4V1 M:f71.f72 V M:f71.f74 M:fb2.f80",
    "M:fb2.f71.f80 M:fb3.f80 M:fb3.f71.f80 V6 M:f71.f80 V10 M:f92.fb7 V3 1V3 M:f9c.fb7 V3",
    "M:fa1.fb7 V3 M:fa6.fb7 V3 M:fab.fb7 Vb M:f90.fb5 V2 1Ve 1Vc 25V9f M25:2d00 1M:2d27 5M:2d2d",
    "2V2b M:10dc V61 I1 Ve7 1V3 2V6 1V 1V3 2V28 1V3 2V20 1V3 2V6 1V 1V3 2Ve 1V38 1V3 2V42 2V1f",
    "3V19 6V55 2M5:13f0 2V27f 1V1b 3V58 7V15 9V17 9V13 cVc 1V2 1V1 cV33 I1 V27 2V9 6V9 6Va I4 V9",
    "6V58 7V2a 5V45 aV1e 1Vb 4Vb 4V 3V29 2V4 bV2b 4V19 6Va 3V3d 2V40 1V1c 2Va 6V9 6Vd 2V2d 2Vb",
    "14V4c 1Va5 8V3b 3Ve 3V32 M:432 M:434 M:43e M1:441 M:442 M:44a M:463 M:a64b M:1c8a V",
    "5M2a:10d0 2M2:10fd V7 8V2a 5V2b M:61 M:e6 M:62 V M1:64 M:1dd M7:67 V M:6f M:223 M:70 M:72",
    "M1:74 M:77 M:61 M1:250 M:1d02 M:62 M1:64 M:259 M1:25b M:67 V M:6b M:6d M:14b M:6f M:254",
    "M1:1d16 M:70 M1:74 M:1d1d M:26f M:76 M:1d25 M2:3b2 M1:3c6 M:69 M:72 M1:75 M1:3b2 M:3c1",
    "M1:3c6 Vc M:43d V21 M:252 M:63 M:255 M:f0 M:25c M:66 M:25f M:261 M:265 M2:268 M:1d7b M:29d",
    "M:26d M:1d85 M:29f M:271 M:270 M3:272 M:278 M1:282 M:1ab M1:289 M:1d1c M1:28b M:7a M2:290",
    "M:3b8 V3f T95 V3 M:61.2be M:1e61 V1 M:df V T5f V7 M7:1f00 V5 2M5:1f10 2V7 M7:1f20 V7 M7:1f30",
    "V5 2M5:1f40 2V7 1M:1f51 1M:1f53 1M:1f55 1M:1f57 V7 M7:1f60 V M:3ac V M:3ad V M:3ae V M:3af V",
    "M:3cc V M:3cd V M:3ce 2M:1f00.3b9 M:1f01.3b9 M:1f02.3b9 M:1f03.3b9 M:1f04.3b9 M:1f05.3b9",
    "M:1f06.3b9 M:1f07.3b9 M:1f00.3b9 M:1f01.3b9 M:1f02.3b9 M:1f03.3b9 M:1f04.3b9 M:1f05.3b9",
    "M:1f06.3b9 M:1f07.3b9 M:1f20.3b9 M:1f21.3b9 M:1f22.3b9 M:1f23.3b9 M:1f24.3b9 M:1f25.3b9",
    "M:1f26.3b9 M:1f27.3b9 M:1f20.3b9 M:1f21.3b9 M:1f22.3b9 M:1f23.3b9 M:1f24.3b9 M:1f25.3b9",
    "M:1f26.3b9 M:1f27.3b9 M:1f60.3b9 M:1f61.3b9 M:1f62.3b9 M:1f63.3b9 M:1f64.3b9 M:1f65.3b9",
    "M:1f66.3b9 M:1f67.3b9 M:1f60.3b9 M:1f61.3b9 M:1f62.3b9 M:1f63.3b9 M:1f64.3b9 M:1f65.3b9",
    "M:1f66.3b9 M:1f67.3b9 V1 M:1f70.3b9 M:3b1.3b9 M:3ac.3b9 1V M:1fb6.3b9 M1:1fb0 M:1f70 M:3ac",
    "M:3b1.3b9 M:20.313 M:3b9 M:20.313 M:20.342 M:20.308.342 M:1f74.3b9 M:3b7.3b9 M:3ae.3b9 1V",
    "M:1fc6.3b9 M:1f72 M:3ad M:1f74 M:3ae M:3b7.3b9 M:20.313.300 M:20.313.301 M:20.313.342 V2",
    "M:390 2V1 M1:1fd0 M:1f76 M:3af 1M:20.314.300 M:20.314.301 M:20.314.342 V2 M:3b0 V3 M1:1fe0",
    "M:1f7a M:3cd M:1fe5 M:20.308.300 M:20.308.301 M:60 2M:1f7c.3b9 M:3c9.3b9 M:3ce.3b9 1V",
    "M:1ff6.3b9 M:1f78 M:3cc M:1f7c M:3ce M:3c9.3b9 M:20.301 M:20.314 1Ea:20 I V1 2V M:2010 V4",
    "M:20.333 Vb 3V 7M:20 V2 M:2032.2032 M:2032.2032.2032 V M:2035.2035 M:2035.2035.2035 V3",
    "M:21.21 V M:20.305 V7 M:3f.3f M:3f.21 M:21.3f Vc M:2032.2032.2032.2032 V6 M:20 I4 5I5 M:30",
    "M:69 2M5:34 M:2b M:2212 M:3d M1:28 M:6e M9:30 M:2b M:2212 M:3d M1:28 1M:61 M:65 M:6f M:78",
    "M:259 M:68 M3:6b M:70 M1:73 3V7 M:72.73 V18 eV20 fM:61.2f.63 M:61.2f.73 M:63 M:b0.63 V",
    "M:63.2f.6f M:63.2f.75 M:25b V M:b0.66 M1:67 E2:68 M:127 E1:69 E1:6c V M:6e M:6e.6f V1 M2:70",
    "E1:72 V1 M:73.6d M:74.65.6c M:74.6d V M:7a V M:3c9 V M:7a V M:6b M:e5 M1:62 V E1:65 M:66",
    "M:214e M:6d M:6f M3:5d0 M:69 V M:66.61.78 M:3c0 E1:3b3 M:3c0 M:2211 V3 E1:64 M:65 M1:69 V5",
    "M:31.2044.37 M:31.2044.39 M:31.2044.31.30 M:31.2044.33 M:32.2044.33 M:31.2044.35",
    "M:32.2044.35 M:33.2044.35 M:34.2044.35 M:31.2044.36 M:35.2044.36 M:31.2044.38 M:33.2044.38",
    "M:35.2044.38 M:37.2044.38 M:31.2044 M:69 M:69.69 M:69.69.69 M:69.76 M:76 M:76.69 M:76.69.69",
    "M:76.69.69.69 M:69.78 M:78 M:78.69 M:78.69.69 M:6c M1:63 M:6d M:69 M:69.69 M:69.69.69",
    "M:69.76 M:76 M:76.69 M:76.69.69 M:76.69.69.69 M:69.78 M:78 M:78.69 M:78.69.69 M:6c M1:63",
    "M:6d V2 M:2184 V4 M:30.2044.33 V1 4V9b M:222b.222b M:222b.222b.222b V M:222e.222e",
    "M:222e.222e.222e Vf7 M1:3008 Vfe 16Va 15M8:31 M:31.30 M:31.31 M:31.32 M:31.33 M:31.34",
    "M:31.35 M:31.36 M:31.37 M:31.38 M:31.39 M:32.30 M:28.31.29 M:28.32.29 M:28.33.29 M:28.34.29",
    "M:28.35.29 M:28.36.29 M:28.37.29 M:28.38.29 M:28.39.29 M:28.31.30.29 M:28.31.31.29",
    "M:28.31.32.29 M:28.31.33.29 M:28.31.34.29 M:28.31.35.29 M:28.31.36.29 M:28.31.37.29",
    "M:28.31.38.29 M:28.31.39.29 M:28.32.30.29 14M:28.61.29 M:28.62.29 M:28.63.29 M:28.64.29",
    "M:28.65.29 M:28.66.29 M:28.67.29 M:28.68.29 M:28.69.29 M:28.6a.29 M:28.6b.29 M:28.6c.29",
    "M:28.6d.29 M:28.6e.29 M:28.6f.29 M:28.70.29 M:28.71.29 M:28.72.29 M:28.73.29 M:28.74.29",
    "M:28.75.29 M:28.76.29 M:28.77.29 M:28.78.29 M:28.79.29 M:28.7a.29 M19:61 M19:61 M:30 V520",
    "M:222b.222b.222b.222b V66 M:3a.3a.3d M:3d.3d M:3d.3d.3d V64 M:2add.338 V96 2V89 M2f:2c30 V2f",
    "M:2c61 V M:26b M:1d7d M:27d V1 T5 M:251 M:271 M:250 M:252 V M:2c73 V1 M:2c76 V5 M:6a M:76",
    "M1:23f T63 V6 T3 V2 M:2cf3 V 5V2c 1V 5V 2V37 7M:2d61 V eV17 9V6 1V6 1V6 1V6 1V6 1V6 1V6 1V6",
    "1V7d 22V19 1V3 M:6bcd V52 M:9f9f cM:4e00 M:4e28 M:4e36 M:4e3f M:4e59 M:4e85 M:4e8c M:4ea0",
    "M:4eba M:513f M:5165 M:516b M:5182 M:5196 M:51ab M:51e0 M:51f5 M:5200 M:529b M:52f9 M:5315",
    "M:531a M:5338 M:5341 M:535c M:5369 M:5382 M:53b6 M:53c8 M:53e3 M:56d7 M:571f M:58eb M:5902",
    "M:590a M:5915 M:5927 M:5973 M:5b50 M:5b80 M:5bf8 M:5c0f M:5c22 M:5c38 M:5c6e M:5c71 M:5ddb",
    "M:5de5 M:5df1 M:5dfe M:5e72 M:5e7a M:5e7f M:5ef4 M:5efe M:5f0b M:5f13 M:5f50 M:5f61 M:5f73",
    "M:5fc3 M:6208 M:6236 M:624b M:652f M:6534 M:6587 M:6597 M:65a4 M:65b9 M:65e0 M:65e5 M:66f0",
    "M:6708 M:6728 M:6b20 M:6b62 M:6b79 M:6bb3 M:6bcb M:6bd4 M:6bdb M:6c0f M:6c14 M:6c34 M:706b",
    "M:722a M:7236 M:723b M:723f M:7247 M:7259 M:725b M:72ac M:7384 M:7389 M:74dc M:74e6 M:7518",
    "M:751f M:7528 M:7530 M:758b M:7592 M:7676 M:767d M:76ae M:76bf M:76ee M:77db M:77e2 M:77f3",
    "M:793a M:79b8 M:79be M:7a74 M:7acb M:7af9 M:7c73 M:7cf8 M:7f36 M:7f51 M:7f8a M:7fbd M:8001",
    "M:800c M:8012 M:8033 M:807f M:8089 M:81e3 M:81ea M:81f3 M:81fc M:820c M:821b M:821f M:826e",
    "M:8272 M:8278 M:864d M:866b M:8840 M:884c M:8863 M:897e M:898b M:89d2 M:8a00 M:8c37 M:8c46",
    "M:8c55 M:8c78 M:8c9d M:8d64 M:8d70 M:8db3 M:8eab M:8eca M:8f9b M:8fb0 M:8fb5 M:9091 M:9149",
    "M:91c6 M:91cc M:91d1 M:9577 M:9580 M:961c M:96b6 M:96b9 M:96e8 M:9751 M:975e M:9762 M:9769",
    "M:97cb M:97ed M:97f3 M:9801 M:98a8 M:98db M:98df M:9996 M:9999 M:99ac M:9aa8 M:9ad8 M:9adf",
    "M:9b25 M:9b2f M:9b32 M:9b3c M:9b5a M:9ce5 M:9e75 M:9e7f M:9ea5 M:9ebb M:9ec3 M:9ecd M:9ed1",
    "M:9ef9 M:9efd M:9f0e M:9f13 M:9f20 M:9f3b M:9f4a M:9f52 M:9f8d M:9f9c M:9fa0 2aM:20 V M:2e",
    "V32 M:3012 V M:5341 M1:5344 V4 1V55 2V1 M:20.3099 M:20.309a V1 M:3088.308a V5e M:30b3.30c8",
    "5V2a 1M1:1100 M:11aa M:1102 M1:11ac M2:1103 M5:11b0 M:111a M2:1106 M:1121 M9:1109 M14:1161 I",
    "M1:1114 M1:11c7 M:11cc M:11ce M:11d3 M:11d7 M:11d9 M:111c M:11dd M:11df M1:111d M:1120",
    "M1:1122 M:1127 M:1129 M4:112b M:1132 M:1136 M:1140 M:1147 M:114c M1:11f1 M2:1157 M1:1184",
    "M:1188 M1:1191 M:1194 M:119e M:11a1 1V1 M:4e00 M:4e8c M:4e09 M:56db M:4e0a M:4e2d M:4e0b",
    "M:7532 M:4e59 M:4e19 M:4e01 M:5929 M:5730 M:4eba V45 aVf M:28.1100.29 M:28.1102.29",
    "M:28.1103.29 M:28.1105.29 M:28.1106.29 M:28.1107.29 M:28.1109.29 M:28.110b.29 M:28.110c.29",
    "M:28.110e.29 M:28.110f.29 M:28.1110.29 M:28.1111.29 M:28.1112.29 M:28.ac00.29 M:28.b098.29",
    "M:28.b2e4.29 M:28.b77c.29 M:28.b9c8.29 M:28.bc14.29 M:28.c0ac.29 M:28.c544.29 M:28.c790.29",
    "M:28.cc28.29 M:28.ce74.29 M:28.d0c0.29 M:28.d30c.29 M:28.d558.29 M:28.c8fc.29",
    "M:28.c624.c804.29 M:28.c624.d6c4.29 1M:28.4e00.29 M:28.4e8c.29 M:28.4e09.29 M:28.56db.29",
    "M:28.4e94.29 M:28.516d.29 M:28.4e03.29 M:28.516b.29 M:28.4e5d.29 M:28.5341.29 M:28.6708.29",
    "M:28.706b.29 M:28.6c34.29 M:28.6728.29 M:28.91d1.29 M:28.571f.29 M:28.65e5.29 M:28.682a.29",
    "M:28.6709.29 M:28.793e.29 M:28.540d.29 M:28.7279.29 M:28.8ca1.29 M:28.795d.29 M:28.52b4.29",
    "M:28.4ee3.29 M:28.547c.29 M:28.5b66.29 M:28.76e3.29 M:28.4f01.29 M:28.8cc7.29 M:28.5354.29",
    "M:28.796d.29 M:28.4f11.29 M:28.81ea.29 M:28.81f3.29 M:554f M:5e7c M:6587 M:7b8f V7",
    "M:70.74.65 M:32.31 M:32.32 M:32.33 M:32.34 M:32.35 M:32.36 M:32.37 M:32.38 M:32.39 M:33.30",
    "M:33.31 M:33.32 M:33.33 M:33.34 M:33.35 M:1100 M1:1102 M2:1105 M:1109 M1:110b M4:110e M:ac00",
    "M:b098 M:b2e4 M:b77c M:b9c8 M:bc14 M:c0ac M:c544 M:c790 M:cc28 M:ce74 M:d0c0 M:d30c M:d558",
    "M:cc38.ace0 M:c8fc.c758 M:c6b0 V M:4e00 M:4e8c M:4e09 M:56db M:4e94 M:516d M:4e03 M:516b",
    "M:4e5d M:5341 M:6708 M:706b M:6c34 M:6728 M:91d1 M:571f M:65e5 M:682a M:6709 M:793e M:540d",
    "M:7279 M:8ca1 M:795d M:52b4 M:79d8 M:7537 M:5973 M:9069 M:512a M:5370 M:6ce8 M:9805 M:4f11",
    "M:5199 M:6b63 M:4e0a M:4e2d M:4e0b M:5de6 M:53f3 M:533b M:5b97 M:5b66 M:76e3 M:4f01 M:8cc7",
    "M:5354 M:591c M:33.36 M:33.37 M:33.38 M:33.39 M:34.30 M:34.31 M:34.32 M:34.33 M:34.34",
    "M:34.35 M:34.36 M:34.37 M:34.38 M:34.39 M:35.30 M:31.6708 M:32.6708 M:33.6708 M:34.6708",
    "M:35.6708 M:36.6708 M:37.6708 M:38.6708 M:39.6708 M:31.30.6708 M:31.31.6708 M:31.32.6708",
    "M:68.67 M:65.72.67 M:65.76 M:6c.74.64 M:30a2 M:30a4 M:30a6 M:30a8 M1:30aa M:30ad M:30af",
    "M:30b1 M:30b3 M:30b5 M:30b7 M:30b9 M:30bb M:30bd M:30bf M:30c1 M:30c4 M:30c6 M:30c8 M5:30ca",
    "M:30d2 M:30d5 M:30d8 M:30db M4:30de M:30e4 M:30e6 M5:30e8 M3:30ef M:4ee4.548c",
    "M:30a2.30d1.30fc.30c8 M:30a2.30eb.30d5.30a1 M:30a2.30f3.30da.30a2 M:30a2.30fc.30eb",
    "M:30a4.30cb.30f3.30b0 M:30a4.30f3.30c1 M:30a6.30a9.30f3 M:30a8.30b9.30af.30fc.30c9",
    "M:30a8.30fc.30ab.30fc M:30aa.30f3.30b9 M:30aa.30fc.30e0 M:30ab.30a4.30ea",
    "M:30ab.30e9.30c3.30c8 M:30ab.30ed.30ea.30fc M:30ac.30ed.30f3 M:30ac.30f3.30de M:30ae.30ac",
    "M:30ae.30cb.30fc M:30ad.30e5.30ea.30fc M:30ae.30eb.30c0.30fc M:30ad.30ed",
    "M:30ad.30ed.30b0.30e9.30e0 M:30ad.30ed.30e1.30fc.30c8.30eb M:30ad.30ed.30ef.30c3.30c8",
    "M:30b0.30e9.30e0 M:30b0.30e9.30e0.30c8.30f3 M:30af.30eb.30bc.30a4.30ed M:30af.30ed.30fc.30cd",
    "M:30b1.30fc.30b9 M:30b3.30eb.30ca M:30b3.30fc.30dd M:30b5.30a4.30af.30eb",
    "M:30b5.30f3.30c1.30fc.30e0 M:30b7.30ea.30f3.30b0 M:30bb.30f3.30c1 M:30bb.30f3.30c8",
    "M:30c0.30fc.30b9 M:30c7.30b7 M:30c9.30eb M:30c8.30f3 M:30ca.30ce M:30ce.30c3.30c8",
    "M:30cf.30a4.30c4 M:30d1.30fc.30bb.30f3.30c8 M:30d1.30fc.30c4 M:30d0.30fc.30ec.30eb",
    "M:30d4.30a2.30b9.30c8.30eb M:30d4.30af.30eb M:30d4.30b3 M:30d3.30eb",
    "M:30d5.30a1.30e9.30c3.30c9 M:30d5.30a3.30fc.30c8 M:30d6.30c3.30b7.30a7.30eb M:30d5.30e9.30f3",
    "M:30d8.30af.30bf.30fc.30eb M:30da.30bd M:30da.30cb.30d2 M:30d8.30eb.30c4 M:30da.30f3.30b9",
    "M:30da.30fc.30b8 M:30d9.30fc.30bf M:30dd.30a4.30f3.30c8 M:30dc.30eb.30c8 M:30db.30f3",
    "M:30dd.30f3.30c9 M:30db.30fc.30eb M:30db.30fc.30f3 M:30de.30a4.30af.30ed M:30de.30a4.30eb",
    "M:30de.30c3.30cf M:30de.30eb.30af M:30de.30f3.30b7.30e7.30f3 M:30df.30af.30ed.30f3",
    "M:30df.30ea M:30df.30ea.30d0.30fc.30eb M:30e1.30ac M:30e1.30ac.30c8.30f3",
    "M:30e1.30fc.30c8.30eb M:30e4.30fc.30c9 M:30e4.30fc.30eb M:30e6.30a2.30f3",
    "M:30ea.30c3.30c8.30eb M:30ea.30e9 M:30eb.30d4.30fc M:30eb.30fc.30d6.30eb M:30ec.30e0",
    "M:30ec.30f3.30c8.30b2.30f3 M:30ef.30c3.30c8 M:30.70b9 M:31.70b9 M:32.70b9 M:33.70b9",
    "M:34.70b9 M:35.70b9 M:36.70b9 M:37.70b9 M:38.70b9 M:39.70b9 M:31.30.70b9 M:31.31.70b9",
    "M:31.32.70b9 M:31.33.70b9 M:31.34.70b9 M:31.35.70b9 M:31.36.70b9 M:31.37.70b9 M:31.38.70b9",
    "M:31.39.70b9 M:32.30.70b9 M:32.31.70b9 M:32.32.70b9 M:32.33.70b9 M:32.34.70b9 M:68.70.61",
    "M:64.61 M:61.75 M:62.61.72 M:6f.76 M:70.63 M:64.6d M:64.6d.32 M:64.6d.33 M:69.75 M:5e73.6210",
    "M:662d.548c M:5927.6b63 M:660e.6cbb M:682a.5f0f.4f1a.793e M:70.61 M:6e.61 M:3bc.61 M:6d.61",
    "M:6b.61 M:6b.62 M:6d.62 M:67.62 M:63.61.6c M:6b.63.61.6c M:70.66 M:6e.66 M:3bc.66 M:3bc.67",
    "M:6d.67 M:6b.67 M:68.7a M:6b.68.7a M:6d.68.7a M:67.68.7a M:74.68.7a M:3bc.6c M:6d.6c M:64.6c",
    "M:6b.6c M:66.6d M:6e.6d M:3bc.6d M:6d.6d M:63.6d M:6b.6d M:6d.6d.32 M:63.6d.32 M:6d.32",
    "M:6b.6d.32 M:6d.6d.33 M:63.6d.33 M:6d.33 M:6b.6d.33 M:6d.2215.73 M:6d.2215.73.32 M:70.61",
    "M:6b.70.61 M:6d.70.61 M:67.70.61 M:72.61.64 M:72.61.64.2215.73 M:72.61.64.2215.73.32 M:70.73",
    "M:6e.73 M:3bc.73 M:6d.73 M:70.76 M:6e.76 M:3bc.76 M:6d.76 M:6b.76 M:6d.76 M:70.77 M:6e.77",
    "M:3bc.77 M:6d.77 M:6b.77 M:6d.77 M:6b.3c9 M:6d.3c9 1M:62.71 M:63.63 M:63.64 M:63.2215.6b.67",
    "1M:64.62 M:67.79 M:68.61 M:68.70 M:69.6e M:6b.6b M:6b.6d M:6b.74 M:6c.6d M:6c.6e M:6c.6f.67",
    "M:6c.78 M:6d.62 M:6d.69.6c M:6d.6f.6c M:70.68 1M:70.70.6d M:70.72 M:73.72 M:73.76 M:77.62",
    "M:76.2215.6d M:61.2215.6d M:31.65e5 M:32.65e5 M:33.65e5 M:34.65e5 M:35.65e5 M:36.65e5",
    "M:37.65e5 M:38.65e5 M:39.65e5 M:31.30.65e5 M:31.31.65e5 M:31.32.65e5 M:31.33.65e5",
    "M:31.34.65e5 M:31.35.65e5 M:31.36.65e5 M:31.37.65e5 M:31.38.65e5 M:31.39.65e5 M:32.30.65e5",
    "M:32.31.65e5 M:32.32.65e5 M:32.33.65e5 M:32.34.65e5 M:32.35.65e5 M:32.36.65e5 M:32.37.65e5",
    "M:32.38.65e5 M:32.39.65e5 M:33.30.65e5 M:33.31.65e5 M:67.61.6c V708c 3V36 9V15b 14T2d V11",
    "T1b M:44a M:44c V59 8V21 Td V1 T3d M:a76f V7 T3 M:1d79 T9 V2 M:a78c V M:265 V1 T3 V1 T13",
    "M:266 M:25c M:261 M:26c M:26a V M:29e M:287 M:29d M:ab53 Tf M:a794 M:282 M:1d8e T3 M:264 Tf",
    "M:19b 14M:73 M:63 M:66 M:71 M:a7f6 V1 M:127 M:153 V32 3V9 6V37 8V45 8Vb 6V73 bV1d 3V4d 1Va",
    "4V20 1V36 9Vd 2V9 2V66 18V1b aV5 2V5 2V5 9V6 1V6 1V2b M:a727 M:ab37 M:26b M:ab52 V8 M:28d V1",
    "4M4f:13a0 V2d 2V9 6V2ba3 cV16 4V30 2104M:8c48 M:66f4 M:8eca M:8cc8 M:6ed1 M:4e32 M:53e5",
    "E1:9f9c M:5951 M:91d1 M:5587 M:5948 M:61f6 M:7669 M:7f85 M:863f M:87ba M:88f8 M:908f M:6a02",
    "M:6d1b M:70d9 M:73de M:843d M:916a M:99f1 M:4e82 M:5375 M:6b04 M:721b M:862d M:9e1e M:5d50",
    "M:6feb M:85cd M:8964 M:62c9 M:81d8 M:881f M:5eca M:6717 M:6d6a M:72fc M:90ce M:4f86 M:51b7",
    "M:52de M:64c4 M:6ad3 M:7210 M:76e7 M:8001 M:8606 M:865c M:8def M:9732 M:9b6f M:9dfa M:788c",
    "M:797f M:7da0 M:83c9 M:9304 M:9e7f M:8ad6 M:58df M:5f04 M:7c60 M:807e M:7262 M:78ca M:8cc2",
    "M:96f7 M:58d8 M:5c62 M:6a13 M:6dda M:6f0f M:7d2f M:7e37 M:964b M:52d2 M:808b M:51dc M:51cc",
    "M:7a1c M:7dbe M:83f1 M:9675 M:8b80 M:62cf M:6a02 M:8afe M:4e39 M:5be7 M:6012 M:7387 M:7570",
    "M:5317 M:78fb M:4fbf M:5fa9 M:4e0d M:6ccc M:6578 M:7d22 M:53c3 M:585e M:7701 M:8449 M:8aaa",
    "M:6bba M:8fb0 M:6c88 M:62fe M:82e5 M:63a0 M:7565 M:4eae M:5169 M:51c9 M:6881 M:7ce7 M:826f",
    "M:8ad2 M:91cf M:52f5 M:5442 M:5973 M:5eec M:65c5 M:6ffe M:792a M:95ad M:9a6a M:9e97 M:9ece",
    "M:529b M:66c6 M:6b77 M:8f62 M:5e74 M:6190 M:6200 M:649a M:6f23 M:7149 M:7489 M:79ca M:7df4",
    "M:806f M:8f26 M:84ee M:9023 M:934a M:5217 M:52a3 M:54bd M:70c8 M:88c2 M:8aaa M:5ec9 M:5ff5",
    "M:637b M:6bae M:7c3e M:7375 M:4ee4 M:56f9 M:5be7 M:5dba M:601c M:73b2 M:7469 M:7f9a M:8046",
    "M:9234 M:96f6 M:9748 M:9818 M:4f8b M:79ae M:91b4 M:96b8 M:60e1 M:4e86 M:50da M:5bee M:5c3f",
    "M:6599 M:6a02 M:71ce M:7642 M:84fc M:907c M:9f8d M:6688 M:962e M:5289 M:677b M:67f3 M:6d41",
    "M:6e9c M:7409 M:7559 M:786b M:7d10 M:985e M:516d M:622e M:9678 M:502b M:5d19 M:6dea M:8f2a",
    "M:5f8b M:6144 M:6817 M:7387 M:9686 M:5229 M:540f M:5c65 M:6613 M:674e M:68a8 M:6ce5 M:7406",
    "M:75e2 M:7f79 M:88cf M:88e1 M:91cc M:96e2 M:533f M:6eba M:541d M:71d0 M:7498 M:85fa M:96a3",
    "M:9c57 M:9e9f M:6797 M:6dcb M:81e8 M:7acb M:7b20 M:7c92 M:72c0 M:7099 M:8b58 M:4ec0 M:8336",
    "M:523a M:5207 M:5ea6 M:62d3 M:7cd6 M:5b85 M:6d1e M:66b4 M:8f3b M:884c M:964d M:898b M:5ed3",
    "M:5140 M:55c0 V1 M:585a V M:6674 V1 M:51de M:732a M:76ca M:793c M:795e M:7965 M:798f M:9756",
    "M:7cbe M:7fbd V M:8612 V M:8af8 V1 M:9038 M:90fd V2 M:98ef M:98fc M:9928 M:9db4 M:90de",
    "M:96b7 M:4fae M:50e7 M:514d M:52c9 M:52e4 M:5351 M:559d M:5606 M:5668 M:5840 M:58a8 M:5c64",
    "M:5c6e M:6094 M:6168 M:618e M:61f2 M:654f M:65e2 M:6691 M:6885 M:6d77 M:6e1a M:6f22 M:716e",
    "M:722b M:7422 M:7891 M:793e M:7949 M:7948 M:7950 M:7956 M:795d M1:798d M:7a40 M:7a81 M:7bc0",
    "M:7df4 M:7e09 M:7e41 M:7f72 M:8005 M:81ed E1:8279 M:8457 M:8910 M:8996 M:8b01 M:8b39 M:8cd3",
    "M:8d08 M:8fb6 M:9038 M:96e3 M:97ff M:983b M:6075 M:242ee M:8218 2M:4e26 M:51b5 M:5168 M:4f80",
    "M:5145 M:5180 M:52c7 M:52fa M:559d M:5555 M:5599 M:55e2 M:585a M:58b3 M:5944 M:5954 M:5a62",
    "M:5b28 M:5ed2 M:5ed9 M:5f69 M:5fad M:60d8 M:614e M:6108 M:618e M:6160 M:61f2 M:6234 M:63c4",
    "M:641c M:6452 M:6556 M:6674 M:6717 M:671b M:6756 M:6b79 M:6bba M:6d41 M:6edb M:6ecb M:6f22",
    "M:701e M:716e M:77a7 M:7235 M:72af M:732a M:7471 M:7506 M:753b M:761d M:761f M:76ca M:76db",
    "M:76f4 M:774a M:7740 M:78cc M:7ab1 M:7bc0 M:7c7b M:7d5b M:7df4 M:7f3e M:8005 M:8352 M:83ef",
    "M:8779 M:8941 M:8986 M:8996 M:8abf M:8af8 M:8acb M:8b01 M:8afe M:8aed M:8b39 M:8b8a M:8d08",
    "M:8f38 M:9072 M:9199 M:9276 M:967c M:96e3 M:9756 M:97db M:97ff M:980b M:983b M:9b12 M:9f9c",
    "M:2284a M:22844 M:233d5 M:3b9d M:4018 M:4039 M:25249 M:25cd0 M:27ed3 M:9f43 M:9f8e 26M:66.66",
    "M:66.69 M:66.6c M:66.66.69 M:66.66.6c E1:73.74 cM:574.576 M:574.565 M:574.56b M:57e.576",
    "M:574.56d 5M:5d9.5b4 V M:5f2.5b7 M:5e2 M:5d0 M1:5d3 M2:5db M:5e8 M:5ea M:2b M:5e9.5c1",
    "M:5e9.5c2 M:5e9.5bc.5c1 M:5e9.5bc.5c2 M:5d0.5b7 M:5d0.5b8 M:5d0.5bc M:5d1.5bc M:5d2.5bc",
    "M:5d3.5bc M:5d4.5bc M:5d5.5bc M:5d6.5bc 1M:5d8.5bc M:5d9.5bc M:5da.5bc M:5db.5bc M:5dc.5bc",
    "1M:5de.5bc 1M:5e0.5bc M:5e1.5bc 1M:5e3.5bc M:5e4.5bc 1M:5e6.5bc M:5e7.5bc M:5e8.5bc",
    "M:5e9.5bc M:5ea.5bc M:5d5.5b9 M:5d1.5bf M:5db.5bf M:5e4.5bf M:5d0.5dc E1:671 E3:67b E3:67e",
    "E3:680 E3:67a E3:67f E3:679 E3:6a4 E3:6a6 E3:684 E3:683 E3:686 E3:687 E1:68d E1:68c E1:68e",
    "E1:688 E1:698 E1:691 E3:6a9 E3:6af E3:6b3 E3:6b1 E1:6ba E3:6bb E1:6c0 E3:6c1 E3:6be E1:6d2",
    "E1:6d3 V20 E3:6ad E1:6c7 E1:6c6 E1:6c8 M:6c7.674 E1:6cb E1:6c5 E1:6c9 E3:6d0 E1:649",
    "E1:626.627 E1:626.6d5 E1:626.648 E1:626.6c7 E1:626.6c6 E1:626.6c8 E2:626.6d0 E2:626.649",
    "E3:6cc M:626.62c M:626.62d M:626.645 M:626.649 M:626.64a M:628.62c M:628.62d M:628.62e",
    "M:628.645 M:628.649 M:628.64a M:62a.62c M:62a.62d M:62a.62e M:62a.645 M:62a.649 M:62a.64a",
    "M:62b.62c M:62b.645 M:62b.649 M:62b.64a M:62c.62d M:62c.645 M:62d.62c M:62d.645 M:62e.62c",
    "M:62e.62d M:62e.645 M:633.62c M:633.62d M:633.62e M:633.645 M:635.62d M:635.645 M:636.62c",
    "M:636.62d M:636.62e M:636.645 M:637.62d M:637.645 M:638.645 M:639.62c M:639.645 M:63a.62c",
    "M:63a.645 M:641.62c M:641.62d M:641.62e M:641.645 M:641.649 M:641.64a M:642.62d M:642.645",
    "M:642.649 M:642.64a M:643.627 M:643.62c M:643.62d M:643.62e M:643.644 M:643.645 M:643.649",
    "M:643.64a M:644.62c M:644.62d M:644.62e M:644.645 M:644.649 M:644.64a M:645.62c M:645.62d",
    "M:645.62e M:645.645 M:645.649 M:645.64a M:646.62c M:646.62d M:646.62e M:646.645 M:646.649",
    "M:646.64a M:647.62c M:647.645 M:647.649 M:647.64a M:64a.62c M:64a.62d M:64a.62e M:64a.645",
    "M:64a.649 M:64a.64a M:630.670 M:631.670 M:649.670 M:20.64c.651 M:20.64d.651 M:20.64e.651",
    "M:20.64f.651 M:20.650.651 M:20.651.670 M:626.631 M:626.632 M:626.645 M:626.646 M:626.649",
    "M:626.64a M:628.631 M:628.632 M:628.645 M:628.646 M:628.649 M:628.64a M:62a.631 M:62a.632",
    "M:62a.645 M:62a.646 M:62a.649 M:62a.64a M:62b.631 M:62b.632 M:62b.645 M:62b.646 M:62b.649",
    "M:62b.64a M:641.649 M:641.64a M:642.649 M:642.64a M:643.627 M:643.644 M:643.645 M:643.649",
    "M:643.64a M:644.645 M:644.649 M:644.64a M:645.627 M:645.645 M:646.631 M:646.632 M:646.645",
    "M:646.646 M:646.649 M:646.64a M:649.670 M:64a.631 M:64a.632 M:64a.645 M:64a.646 M:64a.649",
    "M:64a.64a M:626.62c M:626.62d M:626.62e M:626.645 M:626.647 M:628.62c M:628.62d M:628.62e",
    "M:628.645 M:628.647 M:62a.62c M:62a.62d M:62a.62e M:62a.645 M:62a.647 M:62b.645 M:62c.62d",
    "M:62c.645 M:62d.62c M:62d.645 M:62e.62c M:62e.645 M:633.62c M:633.62d M:633.62e M:633.645",
    "M:635.62d M:635.62e M:635.645 M:636.62c M:636.62d M:636.62e M:636.645 M:637.62d M:638.645",
    "M:639.62c M:639.645 M:63a.62c M:63a.645 M:641.62c M:641.62d M:641.62e M:641.645 M:642.62d",
    "M:642.645 M:643.62c M:643.62d M:643.62e M:643.644 M:643.645 M:644.62c M:644.62d M:644.62e",
    "M:644.645 M:644.647 M:645.62c M:645.62d M:645.62e M:645.645 M:646.62c M:646.62d M:646.62e",
    "M:646.645 M:646.647 M:647.62c M:647.645 M:647.670 M:64a.62c M:64a.62d M:64a.62e M:64a.645",
    "M:64a.647 M:626.645 M:626.647 M:628.645 M:628.647 M:62a.645 M:62a.647 M:62b.645 M:62b.647",
    "M:633.645 M:633.647 M:634.645 M:634.647 M:643.644 M:643.645 M:644.645 M:646.645 M:646.647",
    "M:64a.645 M:64a.647 M:640.64e.651 M:640.64f.651 M:640.650.651 M:637.649 M:637.64a M:639.649",
    "M:639.64a M:63a.649 M:63a.64a M:633.649 M:633.64a M:634.649 M:634.64a M:62d.649 M:62d.64a",
    "M:62c.649 M:62c.64a M:62e.649 M:62e.64a M:635.649 M:635.64a M:636.649 M:636.64a M:634.62c",
    "M:634.62d M:634.62e M:634.645 M:634.631 M:633.631 M:635.631 M:636.631 M:637.649 M:637.64a",
    "M:639.649 M:639.64a M:63a.649 M:63a.64a M:633.649 M:633.64a M:634.649 M:634.64a M:62d.649",
    "M:62d.64a M:62c.649 M:62c.64a M:62e.649 M:62e.64a M:635.649 M:635.64a M:636.649 M:636.64a",
    "M:634.62c M:634.62d M:634.62e M:634.645 M:634.631 M:633.631 M:635.631 M:636.631 M:634.62c",
    "M:634.62d M:634.62e M:634.645 M:633.647 M:634.647 M:637.645 M:633.62c M:633.62d M:633.62e",
    "M:634.62c M:634.62d M:634.62e M:637.645 M:638.645 E1:627.64b V11 M:62a.62c.645",
    "E1:62a.62d.62c M:62a.62d.645 M:62a.62e.645 M:62a.645.62c M:62a.645.62d M:62a.645.62e",
    "E1:62c.645.62d M:62d.645.64a M:62d.645.649 M:633.62d.62c M:633.62c.62d M:633.62c.649",
    "E1:633.645.62d M:633.645.62c E1:633.645.645 E1:635.62d.62d M:635.645.645 E1:634.62d.645",
    "M:634.62c.64a E1:634.645.62e E1:634.645.645 M:636.62d.649 E1:636.62e.645 E1:637.645.62d",
    "M:637.645.645 M:637.645.64a M:639.62c.645 E1:639.645.645 M:639.645.649 M:63a.645.645",
    "M:63a.645.64a M:63a.645.649 E1:641.62e.645 M:642.645.62d M:642.645.645 M:644.62d.645",
    "M:644.62d.64a M:644.62d.649 E1:644.62c.62c E1:644.62e.645 E1:644.645.62d M:645.62d.62c",
    "M:645.62d.645 M:645.62d.64a M:645.62c.62d M:645.62c.645 M:645.62e.62c M:645.62e.645 V1",
    "M:645.62c.62e M:647.645.62c M:647.645.645 M:646.62d.645 M:646.62d.649 E1:646.62c.645",
    "M:646.62c.649 M:646.645.64a M:646.645.649 E1:64a.645.645 M:628.62e.64a M:62a.62c.64a",
    "M:62a.62c.649 M:62a.62e.64a M:62a.62e.649 M:62a.645.64a M:62a.645.649 M:62c.645.64a",
    "M:62c.62d.649 M:62c.645.649 M:633.62e.649 M:635.62d.64a M:634.62d.64a M:636.62d.64a",
    "M:644.62c.64a M:644.645.64a M:64a.62d.64a M:64a.62c.64a M:64a.645.64a M:645.645.64a",
    "M:642.645.64a M:646.62d.64a M:642.645.62d M:644.62d.645 M:639.645.64a M:643.645.64a",
    "M:646.62c.62d M:645.62e.64a M:644.62c.645 M:643.645.645 M:644.62c.645 M:646.62c.62d",
    "M:62c.62d.64a M:62d.62c.64a M:645.62c.64a M:641.645.64a M:628.62d.64a M:643.645.645",
    "M:639.62c.645 M:635.645.645 M:633.62e.64a M:646.62c.64a V7 20M:635.644.6d2 M:642.644.6d2",
    "M:627.644.644.647 M:627.643.628.631 M:645.62d.645.62f M:635.644.639.645 M:631.633.648.644",
    "M:639.644.64a.647 M:648.633.644.645 M:635.644.649",
    "M:635.644.649.20.627.644.644.647.20.639.644.64a.647.20.648.633.644.645",
    "M:62c.644.20.62c.644.627.644.647 M:631.6cc.627.644 V2 If M:2c M:3001 1M1:3a M:21 M:3f",
    "M1:3016 7Vf 1M:2014 M:2013 E1:5f M1:28 M:7b M:7d M1:3014 M1:3010 M1:300a M1:3008 M3:300c V1",
    "M:5b M:5d E3:20.305 E2:5f M:2c M:3001 2M:3b M:3a M:3f M:21 M:2014 M1:28 M:7b M:7d M1:3014",
    "M:23 M:26 M1:2a M:2d M:3c M:3e M:3d 1M:5c M1:24 M:40 4M:20.64b M:640.64b M:20.64c V M:20.64d",
    "1M:20.64e M:640.64e M:20.64f M:640.64f M:20.650 M:640.650 M:20.651 M:640.651 M:20.652",
    "M:640.652 M1:621 M1:622 M1:623 M1:624 M1:625 E2:626 E1:627 E3:628 E1:629 E3:62a E3:62b",
    "E3:62c E3:62d E3:62e E1:62f E1:630 E1:631 E1:632 E3:633 E3:634 E3:635 E3:636 E3:637 E3:638",
    "E3:639 E3:63a E3:641 E3:642 E3:643 E3:644 E3:645 E3:646 E3:647 E1:648 E1:649 E3:64a",
    "E1:644.622 E1:644.623 E1:644.625 E1:644.627 2I 1M1f:21 M19:61 M23:5b M1:2985 M:2e M1:300c",
    "M:3001 M:30fb M:30f2 M:30a1 M:30a3 M:30a5 M:30a7 M:30a9 M:30e3 M:30e5 M:30e7 M:30c3 M:30fc",
    "M:30a2 M:30a4 M:30a6 M:30a8 M1:30aa M:30ad M:30af M:30b1 M:30b3 M:30b5 M:30b7 M:30b9 M:30bb",
    "M:30bd M:30bf M:30c1 M:30c4 M:30c6 M:30c8 M5:30ca M:30d2 M:30d5 M:30d8 M:30db M4:30de M:30e4",
    "M:30e6 M5:30e8 M:30ef M:30f3 M1:3099 I M1:1100 M:11aa M:1102 M1:11ac M2:1103 M5:11b0 M:111a",
    "M2:1106 M:1121 M9:1109 3M5:1161 2M5:1167 2M5:116d 2M2:1173 3M1:a2 M:ac M:20.304 M:a6 M:a5",
    "M:20a9 1M:2502 M3:2190 M:25a0 M:25cb 11Vb 1V19 1V12 1V1 1Ve 2Vd 22V7a 5V2 4V2c 3V57 1Vc 3V",
    "2fV2d 82V1c 3V30 fV1b 4V23 9V1d 5V2a 5V1d 1V24 4Vd 2aM27:10428 V75 2V9 6M23:104d8 4V23 4V27",
    "8V33 bV Ma:10597 1Me:105a3 1M6:105b3 1M1:105bb 1Va 1Ve 1V6 1V1 3V33 cV136 9V15 aV7 18V",
    "M1:2d0 M:e6 M:299 M:253 1M:2a3 M:ab66 M:2a5 M:2a4 M1:256 M:1d91 M:258 M:25e M:2a9 M:264",
    "M:262 M:260 M:29b M:127 M:29c M:267 M:284 M1:2aa M:26c M:1df04 M:a78e M:26e M:1df05 M:28e",
    "M:1df06 M:f8 M1:276 M:71 M:27a M:1df08 M1:27d M:280 M:2a8 M:2a6 M:ab67 M:2a7 M:288 M:2c71",
    "1M:28f M1:2a1 M:298 M2:1c0 M:1df0a M:1df1e 45V5 2V 1V2b 1V1 3V 2V16 1V47 8V8 30V12 1V1 5V20",
    "3V1a 5V1a 26V37 4V13 2V31 1V1 5V7 1V2 1V1c 2V2 4V9 7V8 7V3f 20V26 4Vb 9V35 3V1c 2V1a 5V19",
    "7V3 cV6 50V48 37M32:10cc0 dV32 7V2d 8V9 6Vf M15:10d70 3V1c 8V1 d0V1e 1V29 1V2 2V1 10V5 8V8",
    "21V2d 8V29 16V19 26V1b 14V16 9V4d 4V23 9V3d 1V4 dV18 7V9 6V34 1V11 8V26 9V5f 1V13 bV11 1V2e",
    "3eV6 1V 1V3 1Ve 1Va 6V3a 5V9 6V3 1V7 2V1 2V15 1V6 1V1 1V4 1V9 2V1 2V2 2V 6V 5V6 2V6 3V4 bV9",
    "1V 2V 1V25 1V9 1V 2V 1V3 1V9 1V1 8V1 1dV5b 1V4 1eV47 8V9 a6V35 2V25 22V44 bV9 6Vc 13V39 6V9",
    "6V13 1cV1a 2Ve 4V16 b9V3b 64M1f:118c0 V32 cV7 2V 2V7 1V1 1V1d 1V1 2Vb 9V9 46V7 2V2d 2Va",
    "1bV47 8V52 dV48 7V9 56V7 58V21 eV9 6V8 1V2c 1Vd aV1c 3V1f 2V15 1Vd 49V6 1V1 1V2b 3V 1V1 1V8",
    "8V9 6V5 1V1 1V24 1V1 1V5 7V9 6V2b 4V9 f6V18 7V10 1V28 3V1c 55V fV31 dV39a 66V6e 1V4 bVc3",
    "a4cV62 dV42f 10V15 aVf9a 5V246 1ab9V39 6c6V238 7V1e 1V9 4V50 1V9 6V1d 2V5 aV45 aV9 1V6 1V14",
    "5V12 1b0V39 c6M1f:16e60 V3a 5M18:16ebb 2V18 2cV4a 4V38 7V10 40V4 bV6 9V1cd5 29V1f 61V72",
    "21fdV3 1V6 1V1 1V122 fV 1dV2 2V eV3 8V18b 904V6a 5Vc 3V8 7V9 2V3 I3 f5cVd5 M19:61 M9:30 V2",
    "3V1b3 6V16 fV10 fV2d 2V16 9V73 3cVf5 aV26 2V34 M:1d157.1d165 M:1d158.1d165",
    "M:1d158.1d165.1d16e M:1d158.1d165.1d16f M:1d158.1d165.1d170 M:1d158.1d165.1d171",
    "M:1d158.1d165.1d172 Vd I7 V3f M:1d1b9.1d165 M:1d1ba.1d165 M:1d1b9.1d165.1d16e",
    "M:1d1ba.1d165.1d16e M:1d1b9.1d165.1d16f M:1d1ba.1d165.1d16f V29 15V45 7aV13 cV13 cV56 9V18",
    "87M19:61 M19:61 M19:61 M6:61 1M11:69 M19:61 M19:61 M:61 1M1:63 2M:67 2M1:6a 2M3:6e 1M7:73",
    "M3:61 1M:66 1M6:68 1Ma:70 M19:61 M19:61 M1:61 1M3:64 2M7:6a 1M6:73 1M19:61 M1:61 1M3:64",
    "1M4:69 1M:6f 3M6:73 1M19:61 M19:61 M19:61 M19:61 M19:61 M19:61 M19:61 M19:61 M19:61 M19:61",
    "M19:61 M19:61 M19:61 M:131 M:237 2M10:3b1 M:3b8 M6:3c3 M:2207 M10:3b1 E1:3c3 M5:3c4 M:2202",
    "M:3b5 M:3b8 M:3ba M:3c6 M:3c1 M:3c0 M10:3b1 M:3b8 M6:3c3 M:2207 M10:3b1 E1:3c3 M5:3c4 M:2202",
    "M:3b5 M:3b8 M:3ba M:3c6 M:3c1 M:3c0 M10:3b1 M:3b8 M6:3c3 M:2207 M10:3b1 E1:3c3 M5:3c4 M:2202",
    "M:3b5 M:3b8 M:3ba M:3c6 M:3c1 M:3c0 M10:3b1 M:3b8 M6:3c3 M:2207 M10:3b1 E1:3c3 M5:3c4 M:2202",
    "M:3b5 M:3b8 M:3ba M:3c6 M:3c1 M:3c0 M10:3b1 M:3b8 M6:3c3 M:2207 M10:3b1 E1:3c3 M5:3c4 M:2202",
    "M:3b5 M:3b8 M:3ba M:3c6 M:3c1 M:3c0 E1:3dd 2M9:30 M9:30 M9:30 M9:30 M9:30 V28b fV4 1Ve",
    "450V1e 6V5 d5V6 1V10 2V6 1V1 1V4 5M8:430 M2:43a Ma:43e M:44b M1:44d M:a689 M:4d9 M:456 M:458",
    "M:4e9 M:4af M:4cf M8:430 M1:43a M1:43e M:441 M5:443 M1:44a M:491 M:456 M:455 M:45f M:4ab",
    "M:a651 M:4b1 21V 70V2c 3Vd 2V9 4V1 140V1e 11V39 5V 1d0V29 d6V2a 4V c0V1e 1V15 8V1 e0V6 1V3",
    "1V1 1Ve 1Vc4 2Vf 29M21:1e922 V29 4V9 4V1 311V43 4cV3c c2M1:627 M:62c M:62f 1M:648 M:632",
    "M:62d M:637 M:64a M3:643 M:633 M:639 M:641 M:635 M:642 M:631 M:634 M1:62a M:62e M:630 M:636",
    "M:638 M:63a M:66e M:6ba M:6a1 M:66f 1M:628 M:62c 1M:647 2M:62d 1M:64a M3:643 M:633 M:639",
    "M:641 M:635 M:642 1M:634 M1:62a M:62e 1M:636 1M:63a 6M:62c 4M:62d 1M:64a 1M:644 1M:646 M:633",
    "M:639 1M:635 M:642 1M:634 2M:62e 1M:636 1M:63a 1M:6ba 1M:66f 1M:628 M:62c 1M:647 2M:62d",
    "M:637 M:64a M:643 1M1:645 M:633 M:639 M:641 M:635 M:642 1M:634 M1:62a M:62e 1M:636 M:638",
    "M:63a M:66e 1M:6a1 1M1:627 M:62c M:62f M1:647 M:632 M:62d M:637 M:64a 1M2:644 M:633 M:639",
    "M:641 M:635 M:642 M:631 M:634 M1:62a M:62e M:630 M:636 M:638 M:63a 5M:628 M:62c M:62f 1M:648",
    "M:632 M:62d M:637 M:64a 1M2:644 M:633 M:639 M:641 M:635 M:642 M:631 M:634 M1:62a M:62e M:630",
    "M:636 M:638 M:63a 34V1 10eV2b 4V63 cVe 2Ve 1Ve 1V24 bM:30.2c M:31.2c M:32.2c M:33.2c M:34.2c",
    "M:35.2c M:36.2c M:37.2c M:38.2c M:39.2c V4 M:28.61.29 M:28.62.29 M:28.63.29 M:28.64.29",
    "M:28.65.29 M:28.66.29 M:28.67.29 M:28.68.29 M:28.69.29 M:28.6a.29 M:28.6b.29 M:28.6c.29",
    "M:28.6d.29 M:28.6e.29 M:28.6f.29 M:28.70.29 M:28.71.29 M:28.72.29 M:28.73.29 M:28.74.29",
    "M:28.75.29 M:28.76.29 M:28.77.29 M:28.78.29 M:28.79.29 M:28.7a.29 M:3014.73.3015 M:63 M:72",
    "M:63.64 M:77.7a V M19:61 M:68.76 M:6d.76 M:73.64 M:73.73 M:70.70.76 M:77.63 V19 M:6d.63",
    "M:6d.64 M:6d.72 V22 M:64.6a V1c 38V19 M:307b.304b M:30b3.30b3 M:30b5 dM:624b M:5b57 M:53cc",
    "M:30c7 M:4e8c M:591a M:89e3 M:5929 M:4ea4 M:6620 M:7121 M:6599 M:524d M:5f8c M:518d M:65b0",
    "M:521d M:7d42 M:751f M:8ca9 M:58f0 M:5439 M:6f14 M:6295 M:6355 M:4e00 M:4e09 M:904a M:5de6",
    "M:4e2d M:53f3 M:6307 M:8d70 M:6253 M:7981 M:7a7a M:5408 M:6e80 M:6709 M:6708 M:7533 M:5272",
    "M:55b6 M:914d 4M:3014.672c.3015 M:3014.4e09.3015 M:3014.4e8c.3015 M:3014.5b89.3015",
    "M:3014.70b9.3015 M:3014.6253.3015 M:3014.76d7.3015 M:3014.52dd.3015 M:3014.6557.3015 7M:5f97",
    "M:53ef eV5 9aV3d8 3V10 3Vc 3Vd9 6Vb 4V fVb 4V37 8V9 6V27 8V1d 2Vb 4V1 eV8 27V157 8Vd 2Vc 3Va",
    "3V38 1V 4Vf 2Vb 4V9 7V92 1V5b M9:30 V 405Va6df 20V111d 2V168d 2V1d30 fV26d 9a2M:4e3d M:4e38",
    "M:4e41 M:20122 M:4f60 M:4fae M:4fbb M:5002 M:507a M:5099 M:50e7 M:50cf M:349e M:2063a M:514d",
    "M:5154 M:5164 M:5177 M:2051c M:34b9 M:5167 M:518d M:2054b M:5197 M:51a4 M:4ecc M:51ac M:51b5",
    "M:291df M:51f5 M:5203 M:34df M:523b M:5246 M:5272 M:5277 M:3515 M:52c7 M:52c9 M:52e4 M:52fa",
    "M1:5305 M:5317 M:5349 M:5351 M:535a M:5373 M:537d E2:537f M:20a2c M:7070 M:53ca M:53df",
    "M:20b63 M:53eb M:53f1 M:5406 M:549e M:5438 M:5448 M:5468 M:54a2 M:54f6 M:5510 M:5553 M:5563",
    "E1:5584 M:5599 M:55ab M:55b3 M:55c2 M:5716 M:5606 M:5717 M:5651 M:5674 M:5207 M:58ee M:57ce",
    "M:57f4 M:580d M:578b M:5832 M:5831 M:58ac M:214e4 M:58f2 M:58f7 M:5906 M:591a M:5922 M:5962",
    "M:216a8 M:216ea M:59ec M:5a1b M:5a27 M:59d8 M:5a66 M:36ee M:36fc M:5b08 E1:5b3e M:219c8",
    "M:5bc3 M:5bd8 M:5be7 M:5bf3 M:21b18 M:5bff M:5c06 M:5f53 M:5c22 M:3781 M:5c60 M:5c6e M:5cc0",
    "M:5c8d M:21de4 M:5d43 M:21de6 M:5d6e M:5d6b M:5d7c M1:5de1 M:382f M:5dfd M:5e28 M:5e3d",
    "M:5e69 M:3862 M:22183 M:387c M:5eb0 M:5eb3 M:5eb6 M:5eca M:2a392 M:5efe E1:22331 M:8201",
    "E1:5f22 M:38c7 M:232b8 M:261da M:5f62 M:5f6b M:38e3 M:5f9a M:5fcd M:5fd7 M:5ff9 M:6081",
    "M:393a M:391c M:6094 M:226d4 M:60c7 M:6148 M:614c M:614e M:614c M:617a M:618e M:61b2 M:61a4",
    "M:61af M:61de M:61f2 M:61f6 M:6210 M:621b M:625d M:62b1 M:62d4 M:6350 M:22b0c M:633d M:62fc",
    "M:6368 M:6383 M:63e4 M:22bf1 M:6422 M:63c5 M:63a9 M:3a2e M:6469 M:647e M:649d M:6477 M:3a6c",
    "M:654f M:656c M:2300a M:65e3 M:66f8 M:6649 M:3b19 M:6691 M:3b08 M:3ae4 M:5192 M:5195 M:6700",
    "M:669c M:80ad M:43d9 M:6717 M:671b M:6721 M:675e M:6753 M:233c3 M:3b49 M:67fa M:6785 M:6852",
    "M:6885 M:2346d M:688e M:681f M:6914 M:3b9d M:6942 M:69a3 M:69ea M:6aa8 M:236a3 M:6adb M:3c18",
    "M:6b21 M:238a7 M:6b54 M:3c4e M:6b72 M:6b9f M1:6bba M:23a8d M:21d0b M:23afa M:6c4e M:23cbc",
    "M:6cbf M:6ccd M:6c67 M:6d16 M:6d3e M:6d77 M:6d41 M:6d69 M:6d78 M:6d85 M:23d1e M:6d34 M:6e2f",
    "M:6e6e M:3d33 M:6ecb M:6ec7 M:23ed1 M:6df9 M:6f6e M:23f5e M:23f8e M:6fc6 M:7039 M:701e",
    "M:701b M:3d96 M:704a M:707d M:7077 M:70ad M:20525 M:7145 M:24263 M:719c M:243ab M:7228",
    "M:7235 M:7250 M:24608 M:7280 M:7295 M:24735 M:24814 M:737a M:738b M:3eac M:73a5 E1:3eb8",
    "M:7447 M:745c M:7471 M:7485 M:74ca M:3f1b M:7524 M:24c36 M:753e M:24c92 M:7570 M:2219f",
    "M:7610 M:24fa1 M:24fb8 M:25044 M:3ffc M:4008 M:76f4 M:250f3 M:250f2 M:25119 M:25133 M1:771e",
    "M:771f M:774a M:4039 M:778b M:4046 M:4096 M:2541d M:784e M:788c M:78cc M:40e3 M:25626 M:7956",
    "M:2569a M:256c5 M:798f M:79eb M:412f M:7a40 M:7a4a M:7a4f M:2597c E1:25aa7 M:7aee M:4202",
    "M:25bab M:7bc6 M:7bc9 M:4227 M:25c80 M:7cd2 M:42a0 M:7ce8 M:7ce3 M:7d00 M:25f86 M:7d63",
    "M:4301 M:7dc7 M:7e02 M:7e45 M:4334 M:26228 M:26247 M:4359 M:262d9 M:7f7a M:2633e M:7f95",
    "M:7ffa M:8005 M:264da M:26523 M:8060 M:265a8 M:8070 M:2335f M:43d5 M:80b2 M:8103 M:440b",
    "M:813e M:5ab5 M:267a7 M:267b5 M:23393 M:2339c M:8201 M:8204 M:8f9e M:446b M:8291 M:828b",
    "M:829d M:52b3 M:82b1 M:82b3 M:82bd M:82e6 M:26b3c M:82e5 M:831d M:8363 M:83ad M:8323 M:83bd",
    "M:83e7 M:8457 M:8353 M:83ca M:83cc M:83dc M:26c36 M:26d6b M:26cd5 M:452b M:84f1 M:84f3",
    "M:8516 M:273ca M:8564 M:26f2c M:455d M:4561 M:26fb1 M:270d2 M:456b M:8650 M:865c M:8667",
    "M:8669 M:86a9 M:8688 M:870e M:86e2 M:8779 M:8728 M:876b M:8786 M:45d7 M:87e1 M:8801 M:45f9",
    "M:8860 M:8863 M:27667 M:88d7 M:88de M:4635 M:88fa M:34bb M:278ae M:27966 M:46be M:46c7",
    "M:8aa0 M:8aed M:8b8a M:8c55 M:27ca8 M:8cab M:8cc1 M:8d1b M:8d77 M:27f2f M:20804 M:8dcb",
    "M:8dbc M:8df0 M:208de M:8ed4 M:8f38 M:285d2 M:285ed M:9094 M:90f1 M:9111 M:2872e M:911b",
    "M:9238 M1:92d7 M:927c M:93f9 M:9415 M:28bfa M:958b M:4995 M:95b7 M:28d77 M:49e6 M:96c3",
    "M:5db2 M:9723 M:29145 M:2921a M:4a6e M:4a76 M:97e0 M:2940a M:4ab2 M:29496 E1:980b M:9829",
    "M:295b6 M:98e2 M:4b33 M:9929 M:99a7 M:99c2 M:99fe M:4bce M:29b30 M:9b12 M:9c40 M:9cfd M:4cce",
    "M:4ced M:9d67 M:2a0ce M:4cf8 M:2a105 M:2a20e M:2a291 M:9ebb M:4d56 M:9ef9 M:9efe M:9f05",
    "M:9f0f M:9f16 M:9f3b M:2a600 5e2V134a 5V2129 acc86Ief"]

/-- The characters that may be written in a name. -/
def runs : List CharRun := CharRun.ofLines lines

/-- What the run that holds a character makes of it. -/
def replacement (run : CharRun) (c : Char) : List Char :=
  let place := c.toNat - run.first
  match run.kind with
  | 'I' => []
  | 'M' =>
    match run.others with
    | [other] => [Char.ofNat (other + place)]
    | others => others.map Char.ofNat
  | 'E' => run.others.map Char.ofNat
  | 'T' => if place % 2 = 0 then [Char.ofNat (c.toNat + 1)] else [c]
  | _ => [c]

/-- What becomes of a character; nothing where it is not allowed. -/
def map? (c : Char) : Option (List Char) := (CharRun.find? runs c).map fun run => replacement run c

/-- The character is kept as it is. -/
def isKept (c : Char) : Bool := map? c == some [c]

end NameTable

end Logbook
