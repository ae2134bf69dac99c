import Targeting.Unicode.Script

namespace Targeting.Unicode

-- Where runs of code points start that are used with other scripts than the one they belong to.
-- After a colon with nothing behind it the script of each code point is the only one again.
def scriptExtensionRuns : Runs := Runs.ofLines
  ["b7:Avst+Cari+Copt+Dupl+Elba+Geor+Glag+Gong+Goth+Grek+Hani+Latn+Lydi+Mahj+Perm+Shaw b8:",
   "2bc:Beng+Cyrl+Deva+Latn+Lisu+Thai+Toto 2bd: 2c7:Bopo+Latn 2c8: 2c9:Bopo+Latn 2cc:",
   "2cd:Latn+Lisu 2ce: 2d7:Latn+Thai 2d8: 2d9:Bopo+Latn 2da:",
   "300:Cher+Copt+Cyrl+Grek+Latn+Perm+Sunu+Tale 301:Cher+Cyrl+Grek+Latn+Osge+Sunu+Tale+Todr",
   "302:Cher+Cyrl+Latn+Tfng 303:Glag+Latn+Sunu+Syrc+Thai",
   "304:Aghb+Cher+Copt+Cyrl+Goth+Grek+Latn+Osge+Syrc+Tfng+Todr 305:Copt+Elba+Glag+Goth+Kana+Latn",
   "306:Cyrl+Grek+Latn+Perm+Tfng 307:Copt+Dupl+Hebr+Latn+Perm+Syrc+Tale+Tfng+Todr",
   "308:Armn+Cyrl+Dupl+Goth+Grek+Hebr+Latn+Perm+Syrc+Tale+Tfng 309:Latn+Tfng 30a:Dupl+Latn+Syrc",
   "30b:Cher+Cyrl+Latn+Osge 30c:Cher+Latn+Tale 30d:Latn+Sunu 30e:Ethi+Latn 30f: 310:Latn+Sunu",
   "311:Cyrl+Latn+Todr 312: 313:Grek+Latn+Perm+Todr 314: 323:Cher+Dupl+Kana+Latn+Syrc+Tfng",
   "324:Cher+Dupl+Latn+Syrc 325:Latn+Syrc 326: 32d:Latn+Sunu+Syrc 32e:Latn+Syrc 32f:",
   "330:Cher+Latn+Syrc 331:Aghb+Cher+Goth+Latn+Sunu+Syrc+Thai 332: 342:Grek 343: 345:Grek 346:",
   "358:Latn+Osge 359: 35e:Aghb+Latn+Todr 35f: 363:Latn 370: 374:Copt+Grek 376: 483:Cyrl+Perm",
   "484:Cyrl+Glag 485:Cyrl+Latn 487:Cyrl+Glag 488: 589:Armn+Geor+Glag 58a:",
   "60c:Arab+Gara+Nkoo+Rohg+Syrc+Thaa+Yezi 60d: 61b:Arab+Gara+Nkoo+Rohg+Syrc+Thaa+Yezi",
   "61c:Arab+Syrc+Thaa 61d: 61f:Adlm+Arab+Gara+Nkoo+Rohg+Syrc+Thaa+Yezi 620:",
   "640:Adlm+Arab+Mand+Mani+Ougr+Phlp+Rohg+Sogd+Syrc 641: 64b:Arab+Syrc 656: 660:Arab+Thaa+Yezi",
   "66a: 670:Arab+Syrc 671: 6d4:Arab+Rohg 6d5:",
   "951:Beng+Deva+Gran+Gujr+Guru+Knda+Latn+Mlym+Nand+Newa+Orya+Shrd+Taml+Telu+Tirh",
   "952:Beng+Deva+Gran+Gujr+Guru+Knda+Latn+Mlym+Newa+Orya+Taml+Telu+Tirh 953:",
   "964:Beng+Deva+Dogr+Gong+Gonm+Gran+Gujr+Guru+Knda+Mahj+Mlym+Nand+Onao+Orya+Sind+Sinh+Sylo+Takr+Taml+Telu+Tirh",
   "965:Beng+Deva+Dogr+Gong+Gonm+Gran+Gujr+Gukh+Guru+Knda+Limb+Mahj+Mlym+Nand+Onao+Orya+Sind+Sinh+Sylo+Takr+Taml+Telu+Tirh",
   "966:Deva+Dogr+Kthi+Mahj 970: 9e6:Beng+Cakm+Sylo 9f0: a66:Guru+Mult a70: ae6:Gujr+Khoj af0:",
   "be6:Gran+Taml bf4: ce6:Knda+Nand+Tutg cf0: 1040:Cakm+Mymr+Tale 104a: 10fb:Geor+Glag+Latn",
   "10fc: 16eb:Runr 16ee: 1735:Buhd+Hano+Tagb+Tglg 1737: 1802:Mong+Phag 1804: 1805:Mong+Phag",
   "1806: 1cd0:Beng+Deva+Gran+Knda 1cd1:Deva 1cd2:Beng+Deva+Gran+Knda 1cd3:Deva+Gran+Knda",
   "1cd4:Deva 1cd5:Beng+Deva+Newa+Telu+Tirh 1cd6:Beng+Deva+Telu 1cd7:Deva+Newa+Shrd",
   "1cd8:Beng+Deva+Newa+Telu 1cd9:Deva+Shrd 1cda:Deva+Knda+Mlym+Orya+Taml+Telu 1cdb:Deva",
   "1cdc:Deva+Shrd 1cde:Deva 1ce0:Deva+Shrd 1ce1:Beng+Deva 1ce2:Deva+Newa+Tirh 1ce3:Deva",
   "1ce9:Deva+Nand+Newa 1cea:Beng+Deva+Shrd 1ceb:Deva+Newa 1cec:Deva 1ced:Beng+Deva+Newa+Shrd",
   "1cee:Deva 1cf2:Beng+Deva+Gran+Knda+Mlym+Nand+Orya+Sinh+Telu+Tirh+Tutg 1cf3:Deva+Gran",
   "1cf4:Deva+Gran+Knda+Tutg 1cf5:Beng+Deva 1cf7:Beng 1cf8:Deva+Gran 1cfa:Nand 1cfb: 1dc0:Grek",
   "1dc2: 1df8:Cyrl+Latn+Syrc 1df9: 1dfa:Syrc 1dfb: 202f:Latn+Mong+Phag 2030: 204f:Adlm+Arab",
   "2050: 205a:Cari+Geor+Glag+Hung+Lyci+Orkh 205b: 205d:Cari+Grek+Hung+Mero 205e:",
   "20f0:Deva+Gran+Latn 20f1: 2e17:Copt+Latn 2e18: 2e30:Avst+Orkh",
   "2e31:Avst+Cari+Geor+Hung+Kthi+Lydi+Samr 2e32: 2e3c:Dupl 2e3d: 2e41:Adlm+Arab+Hung 2e42:",
   "2e43:Cyrl+Glag 2e44: 2ff0:Hani+Tang 3000: 3001:Bopo+Hang+Hani+Hira+Kana+Mong+Yiii",
   "3002:Bopo+Hang+Hani+Hira+Kana+Mong+Phag+Yiii 3003:Bopo+Hang+Hani+Hira+Kana 3004: 3006:Hani",
   "3007: 3008:Bopo+Hang+Hani+Hira+Kana+Mong+Tibt+Yiii",
   "300a:Bopo+Hang+Hani+Hira+Kana+Lisu+Mong+Tibt+Yiii 300c:Bopo+Hang+Hani+Hira+Kana+Yiii 3012:",
   "3013:Bopo+Hang+Hani+Hira+Kana 3014:Bopo+Hang+Hani+Hira+Kana+Yiii",
   "301c:Bopo+Hang+Hani+Hira+Kana 3020: 302a:Bopo+Hani 302e: 3030:Bopo+Hang+Hani+Hira+Kana",
   "3031:Hira+Kana 3036: 3037:Bopo+Hang+Hani+Hira+Kana 3038: 303c:Hani+Hira+Kana 303e:Hani 3040:",
   "3099:Hira+Kana 309d: 30a0:Hira+Kana 30a1: 30fb:Bopo+Hang+Hani+Hira+Kana+Yiii 30fc:Hira+Kana",
   "30fd: 3190:Hani 31a0: 31c0:Hani 31e6: 31ef:Hani+Tang 31f0: 3220:Hani 3248: 3280:Hani 32b1:",
   "32c0:Hani 32cc: 32ff:Hani 3300: 3358:Hani 3371: 337b:Hani 3380: 33e0:Hani 33ff:",
   "a66f:Cyrl+Glag a670: a700:Hani+Latn a708:",
   "a830:Deva+Dogr+Gujr+Guru+Khoj+Knda+Kthi+Mahj+Mlym+Modi+Nand+Shrd+Sind+Takr+Tirh+Tutg",
   "a833:Deva+Dogr+Gujr+Guru+Khoj+Knda+Kthi+Mahj+Modi+Nand+Shrd+Sind+Takr+Tirh+Tutg",
   "a836:Deva+Dogr+Gujr+Guru+Khoj+Kthi+Mahj+Modi+Sind+Takr+Tirh",
   "a838:Deva+Dogr+Gujr+Guru+Khoj+Kthi+Mahj+Modi+Shrd+Sind+Takr+Tirh",
   "a839:Deva+Dogr+Gujr+Guru+Khoj+Kthi+Mahj+Modi+Sind+Takr+Tirh a83a: a8f1:Beng+Deva+Tutg a8f2:",
   "a8f3:Deva+Taml a8f4: a92e:Kali+Latn+Mymr a92f: a9cf:Bugi+Java a9d0: fd3e:Arab+Nkoo fd40:",
   "fdf2:Arab+Thaa fdf3: fdfd:Arab+Thaa fdfe: fe45:Bopo+Hang+Hani+Hira+Kana fe47:",
   "ff61:Bopo+Hang+Hani+Hira+Kana+Yiii ff66: ff70:Hira+Kana ff71: ff9e:Hira+Kana ffa0:",
   "10100:Cpmn+Cprt+Linb 10102:Cprt+Linb 10103: 10107:Cprt+Lina+Linb 10134: 10137:Cprt+Linb",
   "10140: 102e0:Arab+Copt 102fc: 10af2:Mani+Ougr 10af3: 11301:Gran+Taml 11302: 11303:Gran+Taml",
   "11304: 1133b:Gran+Taml 1133d: 11fd0:Gran+Taml 11fd2: 11fd3:Gran+Taml 11fd4: 1bca0:Dupl",
   "1bca4: 1d360:Hani 1d372: 1f250:Hani 1f252:"]

-- Whether a character is used with a script, given by its code.
def isUsedWith (code : String) (c : Char) : Bool :=
  let codes := scriptExtensionRuns.labelAt c
  if codes.isEmpty then script c == code else (Text.splitOn '+' codes.toList).contains code.toList

end Targeting.Unicode
