/-!
# The time zone database

The zones of the IANA time zone database, release 2026a, as the compiled zone files give them,
and the names they are known by.

Each zone is one text of `zones`, written `types|pieces|order|rule`:

* the types of local time, separated by `;`, each `offset,dst,abbreviation`: the offset in
  seconds east of UTC, `1` for daylight saving time and `0` otherwise, and the abbreviation; or
  one letter, for a type of `sharedTypes`;
* the pieces the transitions are made of, each a time in base 60, written with the digits of
  `digits`, followed by the type that takes effect then, as an upper-case letter (`A` for the
  first type), so that each piece ends with its letter;
* the transitions, in increasing order of time, as the pieces they are, each named by one
  character of `pieceNames`. The first time is in seconds since 1970-01-01T00:00:00Z, with a `-`
  when it is before; each later time is counted from the one before it;
* the rule that extends the transitions past the last of them, in the form of the POSIX `TZ`
  variable, or nothing.

Each text of `names` is a name and, after a space, the place in `zones` of the zone it names,
counting from zero; names of links are there with the zone they link to. The names are kept in
`nameText`, grouped by the part before their last `/`.
-/

namespace AccessPolicy.ZoneData

def digits : String := "0123456789abcdefghijklmnopqrstuvwxyz!#$%&()*+,./:;<=>?@[]^_~"

/-- The characters that name the pieces of a zone's transitions, the first piece first: the
printable ASCII characters but the quotes, the backslash, the braces, the bar and the dash, then
the Latin letters from U+00C0 on. -/
def pieceNames : List Char :=
  ((List.range 94).map fun i => Char.ofNat (0x21 + i)).filter (fun c => !"\"\\\x7b\x7d|\x27\x60-".contains c) ++
    (List.range 64).map fun i => Char.ofNat (0xC0 + i)

/-- The types of local time that many zones share. A zone names the `i`-th of them by one letter
of its types, `A` to `Z` and then `a` to `z`, in the place of the type itself. -/
def sharedTypes : List String :=
  ("7200,1,CEST;3600,0,CET;-21600,0,CST;7200,0,EET;10800,1,EEST;14400,0,+04;-25200,0,MST;" ++
   "-18000,0,EST;-18000,1,CDT;18000,0,+05;-10800,0,-03;-14400,0,-04;21600,0,+06;32400,0,+09;" ++
   "10800,0,+03;25200,0,+07;-10800,1,-03;18000,1,+05;39600,0,+11;-14400,0,AST;21600,1,+06;" ++
   "-7200,1,-02;28800,0,+08;-21600,1,MDT;0,0,GMT;-14400,1,EDT;10800,0,MSK;3600,1,WEST;" ++
   "36000,0,+10;14400,1,MSD;-3600,0,-01;25200,1,+07;-28800,0,PST;43200,0,+12;-18000,1,CWT;" ++
   "0,0,WET;43200,1,+12;-18000,1,CPT;10800,0,EAT;36000,0,AEST;-25200,1,PDT;-15408,0,CMT;" ++
   "-18000,0,-05;14400,1,+04;28800,1,+08;3600,0,WAT;7200,0,CAT;-10800,1,ADT;-21600,1,MWT;" ++
   "-7200,0,-02;0,0,-00;-21600,1,MPT").splitOn ";"

def zones : Array String := #[
  "-968,0,LMT;Y|-2ld~*>B|!|GMT0",
  "-52,0,LMT;1200,1,+0020;Y;1800,0,+0030;1800,1,+0030;Y|-2b?z~8C9?b~8Bfd&0C1#!k0B:/&0C1#ck0B:ok0B1#~&0C:0k0Bfak0D9vbu0Cbj$u0E:/u0C1#cu0E1#!u0E|!#$%&(&(&(&%&(&(&(&%&(&(&(&%&(&(&(&%&(&(&(&)*+*,./01020101010|GMT0",
  "9288,0,LMT;9320,0,ADMT;m|-43t$y:B2(v~~sC|!#|EAT-3",
  "732,0,LMT;561,0,PMT;b;j;j;A;B;b|-3b>0ccB:%!2=Ec;b9lC*!00D19!00C1i:00D11c00C1oo00D_o00C1rc00D>:00C1&:00D]:00C%!00D+mo00Crd00E%e00G9~z00F1fb00G1ap00F16.00G2yo00Em&p00Ghw/00Ejx!00C11!00Dd%d00H17b00G11#00F1c;00G2%y00E1c;00H1f#00E1c/00G|!#$%&()*+,./0123456789:;<=>?@ABCDE|CET-1",
  "9332,0,LMT;9332,0,AMT;9320,0,ADMT;m|-43t$zwB:)000C1><00cD|!#$|EAT-3",
  "-1920,0,LMT;Y;e;Y|-2ld~s0B?]/s0C144p00B|!#$|GMT0",
  "4460,0,LMT;t|-2le1ekB|!|WAT-1",
  "-3996,0,LMT;-3996,0,BMT;e;Y|-2ld_?oB=+o00Clvb?oD|!#$|GMT0",
  "-3740,0,LMT;e;Y|-2ld~00B2xoo00C|!#|GMT0",
  "8400,0,LMT;8470,0,ZMT;8460,0,ZMT;u|-2miqk0B78/_<Cq/!0aD|!#$|CAT-2",
  "3668,0,LMT;t|-2le118B|!|WAT-1",
  "7048,0,LMT;u|-3e/#^sB|!|CAT-2",
  "7509,0,LMT;E;D;E|-2:#$59C1!>:59Bvb00C1ip00B11z00C1i;00B1nz00C12p00B1pz00C10;00B16p00B1jz00Cs3d00B^z00C1o;00B11b00C1o<00B10;00C1pz00B1pb00B11d00C1o/00B1_/00Brd00C1?z00Bwp00C1q/00B~d00C1ny00D1o100D1q;00D_/00C?b00C1wp00D<n00C1zd00D/z00C1&;00D(b00Cc100B8n00C8;d00Bg/00Ce100Bmn00Ck@p00B1c/00C1c;00B1fz00C1a100B|!#$%&()*+,+./01234565757575657578987898989878989898789898987898:;<=7898989878>?9898789898@&A&A&A&B&A&A&A&A&B&A&ACBDEFGHIJKLMNOPQRSTUTUTSRSRSRSTUTSRSRSRSRSTUT|EET-2EEST,M4.5.5/0,M10.5.4/24",
  "-1820,0,LMT;3600,1,+01;0,0,+00;3600,0,+01;0,0,+00|-2g:nt&C130/t&Brb00C%d00Bd^b00Cb6p00B[~00C&o#00B//00Cgnd00Brz00C43d00B!/00C1;d00B~~00C1$p00Bpz00Cd&p00D4mn00C@y;00Bwn00C1(#00B%b00C1zd00B/z00C1;f00Bw:00Cco00Bgo00C1o000Bs000Cd!00Bvc00C11!00B!000Ce000By000Cu:00C%c00C+:00C_:00Bmo00Cg:00B/!00Cj!00C28:00C26000C|!#$%&()*+,./012345670189:;<=>?@ABCDEFGHEIGJEBGKLMNOLPGQGRNRGRNRGQGRNRGQGRNRGRNRGQGRNRGRNRNRGRNRGQGRNRGRNRNRGRNRGQGRNRGRNRNRGRNRGQGRNRGRNRNRGRNRGQGRNRGRNRNRGRNRGQGRNRGRNRNRGRNRGQGRNRGRNRGQGRNRGQGRN|<+00>0<+01>,0/0,J365/25",
  "-1276,0,LMT;j;b;j;j;B;A;B|-2:0:00B)d~00C11z00Ddrd00C18p00E3*~00C17d00E1fz00C1a100E1io00C1a000E1y7o00C//00Dgnd00Crz00D43d00C!/00D1;d00C~~00D1$p00Cpz00Dd&p00F4^#00G1c:00H1c:00G1f!00H1f!00G1o000H11!00G1q:00H_:00G|!#$%&()*+,./0123456789:;<;<;<;<=<;<;<;<;<;>?@?@?@ABABA@?@?@ABABABA@?@?@ABABA@?@?@?@ABABA@?@?@ABABA@?@?@?@ABABA@?@?@ABABABA@?@?|CET-1CEST,M3.5.0,M10.5.0/3",
  "-3292,0,LMT;Y;e;Y|-2ld~58B?]/58C12]100B|!#$|GMT0",
  "-4184,0,LMT;e;Y|-2ld_<gB1b#z<gC|!#|GMT0",
  "9428,0,LMT;m;9900,0,+0245;m|-1y_2#8B(nz#8Cv%!f0B|!#$|EAT-3",
  "10356,0,LMT;m|-2mr$>!B|!|EAT-3",
  "2328,0,LMT;t|-2le0$:B|!|WAT-1",
  "-3168,0,LMT;e;3600,1,+01;0,0,+00|-1r%z7cB1)^!7cD6/00C!/00D1;d00C~~00D1$p00Cpz00D1c##00Cwn00D1(#00C%b00D1zd00C/z00D1;f00Cw:00Dco00Cgo00D1o000Cs000Dd!00Cvc00D11!00C!000De000Cy000Du:00D%c00D+:00D_:00Cmo00Dg:00C/!00Dj!00D28:00D26000D|!#$%&()*+%&,./0123456789:;<=:><?:7<@ABCDAE<F<GCG<GCG<F<GCG<F<GCG<GCG<F<GCG<GCGCG<GCG<F<GCG<GCGCG<GCG<F<GCG<GCGCG<GCG<F<GCG<GCGCG<GCG<F<GCG<GCGCG<GCG<F<GCG<GCGCG<GCG<F<GCG<GCG<F<GCG<F<GC|<+00>0<+01>,0/0,J365/25",
  "-3180,0,LMT;-3180,0,FMT;-2400,1,-0040;e;Y|-3ygn70B1g(c00D/hc70C:n&0D11ck0C1o/&0D1pb&0D1;b&0D!:k0C1z&0D5t!k0E|!#$%&(&(&)&(&(&*+,.|GMT0",
  "6220,0,LMT;5400,0,SAST;u;10800,1,CAST|-3q_1*&B+c:d&C1$+;u0D1c/00C|!#$%|CAT-2",
  "7452,0,LMT;u|-2),e4cB|!|CAT-2",
  "6720,0,LMT;5400,0,SAST;10800,1,SAST;7200,0,SAST|-39&p>0Bq[cm0D1!jdu0C1c/00D1c;00C|!#$%&%|SAST-2",
  "7588,0,LMT;10800,1,CAST;u;m;u|-1y_26sC1z.06sB16/00C1i;00B17b00C1jd00B1ip00B17z00C1i100B17~00C1h#00B18n00C1hd00B19b00C1gp00B19z00C18/00C1g;00By)d00D=e~00C|!#$%&(&)*+,./0123%&)*+/045123%*+,67|CAT-2",
  "7780,0,LMT;m;9000,0,+0230;9900,0,+0245;m|-1(3$9&B3%z9&C*;!u0Dl[b,0B|!#$%|EAT-3",
  "7808,0,LMT;10800,1,CAST;u;m;u|-1y_2a8C1z.0a8B16/00C1i;00B17b00C1jd00B1ip00B17z00C1i100B17~00C1h#00B18n00C1hd00B19b00C1gp00B19z00C18/00C1g;00By)d00D*j/00C|!#$%&(&)*+,./0123%&)*+/045123%*+,67|CAT-2",
  "7216,0,LMT;u|-1ode0gB|!|CAT-2",
  "3672,0,LMT;t|-2[&11cB|!|WAT-1",
  "815,0,LMT;Y;1800,0,+0030;t|-2#40dzB7iodzAdn~.pCd/z*zD|!#$%|WAT-1",
  "2268,0,LMT;t|-2le0#:B|!|WAT-1",
  "292,0,LMT;Y|-37tc4>B|!|GMT0",
  "3176,0,LMT;3124,0,LMT;t|-39[!>]B:(z>]C|!#|WAT-1",
  "6592,0,LMT;t;u|-2[&1;>B@&:;>C|!#|CAT-2",
  "6788,0,LMT;u|-2),d?8B|!|CAT-2",
  "2108,0,LMT;Y;t|-2le0z8B26uoz8C|!#|WAT-1",
  "7818,0,LMT;u|-2sw2aiB|!|CAT-2",
  "6600,0,LMT;7200,0,SAST;10800,1,SAST|-2),d<0B1$+;<0C1c/00B|!#$|SAST-2",
  "7464,0,LMT;7200,0,SAST|-2),e4oB|!|SAST-2",
  "10888,0,LMT;m;9000,0,+0230;m|-35r%1sB1ut!1sC13i:u0B|!#$|EAT-3",
  "-2588,0,LMT;-2588,0,MMT;-2670,0,MMT;Y|-3ygng>B1us:00C28)01mD|!#$|GMT0",
  "8836,0,LMT;9000,0,+0230;m;9900,0,+0245;m|-2ua2rgB;6n^gC3(bu0Bh1cu0Ddzb,0C|!#$%&|EAT-3",
  "3612,0,LMT;t;7200,1,WAST|-2le10cB2,3c0cC_n00B|!#$|WAT-1",
  "508,0,LMT;e;Y;t|-2le08sB?];8sC12[~00D|!#$|WAT-1",
  "-3828,0,LMT;Y;e;Y|-2ld_]cB?].]cC158;00B|!#$|GMT0",
  "-364,0,LMT;Y|-2ld~?]B|!|GMT0",
  "628,0,LMT;Y;t|-2le0asB?]:asC|!#|WAT-1",
  "1616,0,LMT;-2205,0,LMT;Y;t;Y|-3tooq]B18aoq]C4i6;00D2q000E|!#$%|GMT0",
  "3164,0,LMT;A;B;D|-21,c>+C1hn#>+Bvx00C4i=00Bxx00C4e;00B#b00C7ip00D]0n00C!100B1db00C1c;00B1dd00B1e;00B1bb00C1e100B1c/00C1c100B1q100Df!n00C1ep00B1db00D!.q00C[!00B1o000D|!#$%&()*+,./.0.12345.0./.6789:;<|EET-2",
  "2444,0,LMT;561,0,PMT;A;B;B;A|-3z<0&+B1c#!vnE18pa9lC1q:00D%!00C3[c00E11#00F1ze00E_:00F7z00E3d00F14/00E1c;00F1f900E1ar00F16,00E1g~#00C_:00D1r!00C11c00Dnwo00C.o00D1c:00C1c:00D10:00Dzu:00C10;00D1a;00C_:00C11!00C1o000D|!#$%&()*+,./0123456789:;6<=>?%@%AB|CET-1",
  "4104,0,LMT;5400,0,+0130;7200,0,SAST;10800,1,SAST;u;t;7200,1,CAT;u|-39&p8oBq[b$oC1!jdu0D1c/00C1@q/00E9+o00F16=00G1n~00F11#00G1q/00F_;00Gkl00E|!#$%&()*+,.,+*+*+*+*+,.,+*+*+*+*+,+*+*+*+*+,.,+*+*+*+/|CAT-2",
  "44002,0,LMT;-42398,0,LMT;-39600,0,NST;-36000,1,NWT;-36000,1,NPT;-39600,0,BST;-36000,1,BDT;-36000,0,AHST;-32400,1,HDT;-36000,0,HST|-48=zs/B1j^zfpC1&~1dmD8w_00Ei#00C>lb00F52<00G1c/00F1c;00G1fz00Fs100G1^z00F/#00G1#~00F1a100G1fz00Hcm00J10q00I1c/00J1c;00I14p00I1lb00J1n~00J11#00I?d00I1zb00J<p00I|!#$%&()*+*+,+*+*./01+,2,+*+*+*+*+,234567676898:;:;:89898:;:;:8989898:;:;:89898:;:;:<=>=>=<=>=>=>=>=>=<=>=>=>=>=<=>=>=>=>=>=<=>=>=>=>=<=>=>=>=>=>=|HST10HDT,M3.2.0,M11.1.0",
  "50424,0,LMT;-35976,0,LMT;-36000,0,AST;-32400,1,AWT;-32400,1,APT;-36000,0,AHST;-32400,1,AHDT;-32400,0,YST;-28800,1,AKDT;-32400,0,AKST|-48=zs/B1j^xsnC1&~20oD8w~00Ei!00C>lb00F52<00G1c/00F1c;00G1fz00Fs100G1^z00F/#00G1#~00F1a100G1fz00Hcm00J10q00I1c/00J1c;00I14p00I1lb00J1n~00J11#00I?d00I1zb00J<p00I|!#$%&()*+*+,+*+*./01+,2,+*+*+*+*+,234567676898:;:;:89898:;:;:8989898:;:;:89898:;:;:<=>=>=<=>=>=>=>=>=<=>=>=>=>=<=>=>=>=>=>=<=>=>=>=>=<=>=>=>=>=>=|AKST9AKDT,M3.2.0,M11.1.0",
  "-15136,0,LMT;T|-2k;v/+B|!|AST4",
  "-14832,0,LMT;H;T|-2k;v>:B1yx!>:C|!#|AST4",
  "-11568,0,LMT;V;K|-2glw/cC*d./cB1cc00C1e100B1b~00C&zd00B@o00C1v!00B:n00C1##00B:/00Cz~00Cqe100Bxb00C2ep00Bnz00C1$100B/~00C*2100B?b00C1t#00B+/00C1(d00B(~00C1&;00B1*#00B/z00Cd:;00B1zd00B1w;00B_n00C_/00C<n00Cny100B10&;e7C|!#$%&()*+,.,/01234/454+6789:;<;=>?>@7AB878C87@D=;E>F|<-03>3",
  "-14028,0,LMT;p;L;Q;V;K|-331]6cB125cn0Cp.n*cD:n00C1i;00D[b00C1$100D/~00C:;00D2jz00C4l~00Cu100D5/b00C1p#00D(nz00Cu/00C1vd00D@/00C17z00C1c;00D1fz00C1c/00C1c;00Fasn00E%b00Fzvd00E#z00F1t#00E[~00F1wp00E?b00Fg0p00D10:00Fj3c00Eu/00F1q;00E_/00F1ae;e7F|!#$%&()*)*)*)%)*)*)*)%+,+./012/34545467879:;<=>?@ABABA@CDEFGHI|<-03>3",
  "-15788,0,LMT;p;L;Q;V;K|-331[!>B125b?&Cp.n*cD:n00C1i;00D[b00C1$100D/~00C:;00D2jz00C4l~00Cu100D5/b00C1p#00D(nz00Cu/00C1vd00D@/00C17z00C1c;00D1fz00C1c/00C1c;00Fasn00E%b00Fzvd00E#z00F1t#00E[~00F1wp00E?b00C1wq00E?a00Fg0p00D10:00Fako00C7#00F8zb00Eu/00F1c&pe7F|!#$%&()*)*)*)%)*)*)*)%+,+./012/34545467879:;<=>?@ABCDA@EFGHIJK|<-03>3",
  "-15408,0,LMT;p;L;Q;V;K|-331[*cB125c00Cp.n*cD:n00C1i;00D[b00C1$100D/~00C:;00D2jz00C4l~00Cu100D5/b00C1p#00D(nz00Cu/00C1vd00D@/00C17z00C1c;00D1fz00C1c/00C1c;00Fasn00E%b00Fzvd00E#z00F1t#00E[~00F1wp00E?b00C1wq00E?a00Fg0p00D10:00Fj3c00Eu/00F1q;00E_/00F1ae;e7F|!#$%&()*)*)*)%)*)*)*)%+,+./012/34545467879:;<=>?@ABCDA@EFGHIJK|<-03>3",
  "-15672,0,LMT;p;L;Q;V;K|-331[$:B125b[!Cp.n*cD:n00C1i;00D[b00C1$100D/~00C:;00D2jz00C4l~00Cu100D5/b00C1p#00D(nz00Cu/00C1vd00D@/00C17z00C1c;00D1fz00C1c/00C1c;00Fasn00E%b00Fzvd00E#z00F1t#00E[~00C1ze00D1ld00E_.00F1wp00E[~00Fg0p00D10:00Fj3c00Eu/00F1c&pe7F|!#$%&()*)*)*)%)*)*)*)%+,+./012/34545467879:;<=>?@A@BCDEFGHIJ|<-03>3",
  "-16044,0,LMT;p;L;Q;V;K|-331[w!B125b;oCp.n*cD:n00C1i;00D[b00C1$100D/~00C:;00D2jz00C4l~00Cu100D5/b00C1p#00D(nz00Cu/00C1vd00D@/00C17z00C1c;00D1fz00C1c/00C1c;00Fasn00E%b00Fzvd00E#z00F1t#00E[~00F1wp00E>n00Cq<00F16n00E?b00Fg0p00D10:00Fako00C7#00F8zb00Eu/00F1c&pe7F|!#$%&()*)*)*)%)*)*)*)%+,+./012/34545467879:;<=>?@ABCDEA@FGHIJKL|<-03>3",
  "-16516,0,LMT;p;L;Q;V;K|-331[o+B125b(wCp.n*cD:n00C1i;00D[b00C1$100D/~00C:;00D2jz00C4l~00Cu100D5/b00C1p#00D(nz00Cu/00C1vd00D@/00C17z00C1c;00D1fz00C1c/00C1c;00Fasn00E%b00Fzvd00E#z00F1t#00E[~00C1u200D1wp00E[_00Fg0p00D10:00Fag:00C<p00F7[~00Eu/00F1c&pe7F|!#$%&()*)*)*)%)*)*)*)%+,+./012/34545467879:;<=>?@A54(BCDEFGHIJ|<-03>3",
  "-16612,0,LMT;p;L;Q;V;K|-331[n8B125b%]Cp.n*cD:n00C1i;00D[b00C1$100D/~00C:;00D2jz00C4l~00Cu100D5/b00C1p#00D(nz00Cu/00C1vd00D@/00C17z00C1c;00D1fz00C1c/00C1c;00Fasn00E%b00Fzvd00E#z00F1t#00E[~00F1wp00E?b00Fg0p00D10:00Fako00C7#00F8zb00Eu/00F1c&pe7F|!#$%&()*)*)*)%)*)*)*)%+,+./012/34545467879:;<=>?@ABABA@CDEFGHI|<-03>3",
  "-15700,0,LMT;p;L;Q;V;K|-331[$kB125b[8Cp.n*cD:n00C1i;00D[b00C1$100D/~00C:;00D2jz00C4l~00Cu100D5/b00C1p#00D(nz00Cu/00C1vd00D@/00C17z00C1c;00D1fz00C1c/00C1c;00Fasn00E%b00Fzvd00E#z00F1t#00E[~00F1wp00E?b00C1wq00E?a00Fg0p00D10:00Fj3c00Eu/00F1c&pe7F|!#$%&()*)*)*)%)*)*)*)%+,+./012/34545467879:;<=>?@ABCDA@EFGHI|<-03>3",
  "-16444,0,LMT;p;L;Q;V;K|-331[p]B125b)+Cp.n*cD:n00C1i;00D[b00C1$100D/~00C:;00D2jz00C4l~00Cu100D5/b00C1p#00D(nz00Cu/00C1vd00D@/00C17z00C1c;00D1fz00C1c/00C1c;00Fasn00E%b00Fzvd00E#z00F1t#00E[~00F1wp00E>n00Cq<00F16n00E?b00Fg0p00D10:00Fak000Cm100F8lb00Eu/00F1c&pe7F|!#$%&()*)*)*)%)*)*)*)%+,+./012/34545467879:;<=>?@ABCDEA@FGHIJKL|<-03>3",
  "-15924,0,LMT;p;L;Q;V;K;Q|-331[y!B125b=oCp.n*cD:n00C1i;00D[b00C1$100D/~00C:;00D2jz00C4l~00Cu100D5/b00C1p#00D(nz00Cu/00C1vd00D@/00C17z00C1c;00D1fz00C1c/00C1c;00Fasn00E%b00Fzvd00E#z00F1t#00E~~00C1q200D!;00Fkin00D10:00Fak000Cm100F8lb00E8/00Djd00C1q;00D_/00C1q;00F18</e7F|!#$%&()*)*)*)%)*)*)*)%+,+./012/34545467879:;<=>?@A5BCDEFGHIJKLM|<-03>3",
  "-15652,0,LMT;p;L;Q;V;K|-331[%8B125b[]Cp.n*cD:n00C1i;00D[b00C1$100D/~00C:;00D2jz00C4l~00Cu100D5/b00C1p#00D(nz00Cu/00C1vd00D@/00C17z00C1c;00D1fz00C1c/00C1c;00Fasn00E%b00Fzvd00E#z00F1t#00E[~00F1wp00E?b00C1wq00E?a00Fg0p00D10:00Fako00C4;00F8#~00Eu/00F1q;00E_/00F1ae;e7F|!#$%&()*)*)*)%)*)*)*)%+,+./012/34545467879:;<=>?@ABCDA@EFGHIJKLM|<-03>3",
  "-16392,0,LMT;p;L;Q;V;K|-331[q:B125b*!Cp.n*cD:n00C1i;00D[b00C1$100D/~00C:;00D2jz00C4l~00Cu100D5/b00C1p#00D(nz00Cu/00C1vd00D@/00C17z00C1c;00D1fz00C1c/00C1c;00Fasn00E%b00Fzvd00E#z00F1t#00E[~00F1wp00E?b00Fg0p00D10:00Faj!00C8p00F8zb00Eu/00F1c&pe7F|!#$%&()*)*)*)%)*)*)*)%+,+./012/34545467879:;<=>?@ABABA@CDEFGHI|<-03>3",
  "-16824,0,LMT;-16200,0,-0430;T|-2k^7j!B28./;!C|!#|AST4",
  "-13840,0,LMT;-13840,0,AMT;L;K;Q|-3e/w9kB1()o00C1%.:9kD3$/00C3%d00E10/00C1p#00E10n00C1c/00C1dd00E1db00C1l#00E14n00C1fd00E_/00C1rd00E1a/00C1d#00E~z00C1qp00E~b00C1q;00E1r#00E[~00C1t#00E11z00C1o100E_;00E1q/00C11#00E1n~00C1ip00E19~00C1a100E1fz00C1c;00E17b00C1f#00E3z00Dwh!e7D|!#$%&()*)*)+,.,+,+,+,.,+,+,+,.,+/0,+123456789(:;<29=>=>=9+?@ABC29292<;<;<DEFEFGHCHCHCDIDIDCHCHCDIDIDIDCJK|<-03>3",
  "-21988,0,LMT;I;C;i;l;H|-32#5?wC](d?wB1in00C?nb00B3je00D8x300Eiw00F|!#$%&()|EST5",
  "-9244,0,LMT;V;K|-2glxp]C*d/p]B1cc00C1e100B1b~00C&zd00B@o00C1v!00B:n00C1##00B:/00Cz~00Cqe100Bxb00C2ep00Bnz00C1$100B/~00C*2100B?b00C1t#00B+/00C1(d00B(~00C1&;00B1*#00B/z00C%b00C<n00C1zd00B1w;00B_n00C_/00Cl5#00B133#e7C|!#$%&()*+,.,/01234/454+6789:;<;=><>49=?=@A@A>A7BC878D87A@=;E7F|<-03>3",
  "-25260,0,LMT;G;C;X;G;I;C|-1]>(00Bdeo00C8lz00E16p00D11z00E1dd00Cot~00E2bm=00D1lb00E14p00D1n~00E11#00D1f#00D_/00E14p00F1n_00C11#00F1n~00C1lb00C|!#$%&()*+,+,+,./.010+,+,./././.,+,+23454526262625454526262545|CST6",
  "-14309,0,LMT;v;T;T;-12600,1,-0330;v|-2m4k1vD1e!;1vB?#00C1#z00B<p00C1rb00E11d00C1j,c00F+/00D1ip00F17b00D1ld00F13b00D|!#$%&()*+,.,./0|AST4",
  "-11636,0,LMT;V;K|-2glw.4C*d..4B1cc00C1e100B1b~00C&zd00B@o00C1v!00B:n00C1##00B:/00Cz~00Cqe100Bxb00C2ep00Bnz00C1$100B/~00C*2100B?b00C1t#00B+/00C1(d00B(~00C21##e7C|!#$%&()*+,.,/01234/454+6789:;<|<-03>3",
  "-21168,0,LMT;-19800,1,-0530;C;i;l;I|-2k#u7cCf=!7cB<nu0C1zcu0B?bu0C1wou0B?cu0D7#t00E;i00C4nd00Be9!u0Fqn00Clx#00Fmn00C|!#$%&(&(&%$%$%&(&(&(&%$%$%&(&(&%$%$%$%&(&(&%$%$%&)*+,&(&(&%$%$%&(&(&(&%$%$%&(&(&%$%$%$%&(&(&%$./01|CST6",
  "-13708,0,LMT;v;T;-10800,1,AWT;-10800,1,APT|-3tokbwC1nsqbwB1in00C])p00D8x500Eiu00C|!#$%&(|AST4",
  "-14560,0,LMT;Q;L|-2glv^kC*d.^kB1cc00C1e100B1b~00C&zd00B@o00C1v!00B:n00C1##00B:/00Cz~00Cqe100Bxb00C2ep00Bnz00C1$100B/~00C*2100B?b00C1t#00B+/00C1(d00B(~00Csmp00B_/00C2/00C1u+0e7C|!#$%&()*+,.,/01234/454+6789:;<=8>?|<-04>4",
  "-17776,0,LMT;-17776,0,BMT;-14400,1,-04;q|-3s[v3+B1e+o00D38yo3+C1=~00D1;q/e7D|!#$%&|<-05>5",
  "-27889,0,LMT;o;g;g;w;z;G;X|-3t(&00D1n&e00B1n~00C11#00B8$100G,$/00E8x200Fix00G>w;00H1c/00G1c;00H1fz00G%d00H1.n00G/#00H1#~00G1a100H14p00H1lb00G1n~00G11#00H?d00H1zb00G<p00H|!#$%$&()*+,.,.,.,./.,.,0123./4/.,.,.,.,./4/.,.,.,56578787565657878756565657878756565787879:;:;:9:;:;:;:;:;:9:;:;:;:;:9:;:;:;:;:;:9:;:;:;:;:9:;:;:;:;:;:|MST7MDT,M3.2.0,M11.1.0",
  "y;w;z;G;X;I;C;H;X;G|-21,c00D?<900B8x200Cix00D14*#00E1c/00D1c;00E1fz00D1a100E14p00E1lb00D1n~00D11#00E1n~00G11!00F1n~00H2.00G_>00E?d00E1zb00D<p00E|!#$%&()()()()*+*)()()()()*+*)()()(,.,/0/0/,.,.,/0/0/,.,.,.,12345/,.,.,/0/0/67878767878787878767878787876787878787876787878787678787878787|MST7MDT,M3.2.0,M11.1.0",
  "-13108,0,LMT;Q;L|-2glwlwC*d/lwB1cc00C1e100B1b~00C&zd00B@o00C1v!00B:n00C1##00B:/00Cz~00Cqe100Bxb00C2ep00Bnz00C1$100B/~00C*2100B?b00C1t#00B+/00C1(d00B(~00C1&;00B1*#00B/z00C%b00C<n00C1zd00B1w;00B_n00C_/00C1+p00B*~00C1wp00B.4oe7C|!#$%&()*+,.,/01234/454+6789:;<;=><>49=?=@A@A>A7BC878D87A@=;4>EFA@=9G@4>4@A@A7A>4>4@A@A@A@=;H|<-04>4",
  "-20824,0,LMT;C;H;I;C;Z;I;H|-1]>)00B2q3$00C2tx00Ewg=00D1lb00E14p00D1lb00C14o00F/z00Dx#00E1n~00E11#00D1f#00D_/00E%d00C|!#$%&()*+,(./.010&(&(./././.(&(&(././.(&(&2|EST5",
  "-16064,0,LMT;-16060,0,CMT;-16200,0,-0430;L|-3e/vwgB?<n~]C28.:2kD1+w<u0Ckqo00D>?8e7D|!#$%&(|<-04>4",
  "-12560,0,LMT;L;K|-2mrwu&B2g_ou&C2=bbe7C|!#$|<-03>3",
  "-19532,0,LMT;-18430,0,KMT;H|-3e/uysB?,~($C|!#|EST5",
  "-21036,0,LMT;I;C;C;H;i;l;C|-3t()00D1n&e00B1n~00C11#00B1wp00B[~00C_;00B1q/00C1c;00B_/00C1q;00B11z00C1o100B11#00E1*z00C14p00B?#00F8x300Giw00C1fz00C1c/00C1a100Bs100B1^z00C/#00B1#~00C1lb00C?d00B1zb00C<p00B|!#$%$&()*+,./0/0/0/0/./0/0/0/0/.,./0/123/0/.,./0/4560/0/0/0/.,./0/0/0/07+8+8+8+8+7+8+8+8+8+797+8+8+8+8+7+8+8:;<=+797+8+8+8+8+797+8+8+83>3$%$%$3>3>3$%$%$3>3>3>3$%$%$3>3>3$%$%$?@A@A@?@A@A@A@A@A@?@A@A@A@A@?@A@A@A@A@A@?@A@A@A@A@?@A@A@A@A@A@|CST6CDT,M3.2.0,M11.1.0",
  "-25460,0,LMT;G;C;X;G;I;X;C|-1]>(00Bdeo00C8lz00E16p00D11z00E1dd00C2z>;00F1lb00C14p00F14q00D1lb00E14p00D1n~00E11#00D1f#00D_/00E1n~00C|!#$%&()*+*,./010232././0101010/././01010/./././01010/././014|CST6",
  "-25556,0,LMT;G;C;X;G;I;X|-1]>(00Bdeo00C8lz00E16p00D11z00E1dd00C2z>;00F1lb00C14p00F14q00D1lb00E14p00D1n~00E11#00D1f#00D_/00E]100D1zb00E<p00D?d00D1wn00Ccm00E&=00D|!#$%&()*+*,./010232././0101010/./.456565656565756565656575689:56565657565656565756565656565|MST7MDT,M3.2.0,M11.1.0",
  "-20173,0,LMT;-20173,0,SJMT;I;C|-3e/un/B1fyo00D2lu0n/C%b00D1.p00Cp?#00C15b00D1kp00Cm/00D|!#$%&%()*+|CST6",
  "-17296,0,LMT;-16965,0,SMT;q;L;-14400,1,-04;Q;L;K|-3e/vb+B:,b@tCf,!hfB5kn),D1^zhfBj?!),E1pbhfC11d00E1o/00C1pb00C11d00Dn*~00Cop00D9[z00E1q000Cko00D>eo00F_/00G1zd00F<n00G1ip00F11z00G1o100F1q;00F1ld00F14n00G1c/00G1c;00F1f#00F19~00G17b00G1fz00G1n~00G)100F1&/00G<p00F1zb00G?d00F1wn00G46n00G!p00F1;b00G11#00F14p00F1lb00G1q/00G1hb00Hvfce7H|!#$%&()*+*+*+*,./0123456789:9;5<=;5;9:9:9;5;5;9:9:9:9;5;5;>?9:9;5@A;9:9:9:9;5;B898C@9;5;5;5;9:9:9;5;B89:A@DEFGHIJIKLMLMLHNDNDNDOPNQNRS|<-03>3",
  "-27964,0,LMT;G;g;G|-3togd]B1j+nd]C43#00B|!#$|MST7",
  "-13460,0,LMT;Q;L|-2glwf&C*d/f&B1cc00C1e100B1b~00C&zd00B@o00C1v!00B:n00C1##00B:/00Cz~00Cqe100Bxb00C2ep00Bnz00C1$100B/~00C*2100B?b00C1t#00B+/00C1(d00B(~00C1&;00B1*#00B/z00C%b00C<n00C1zd00B1w;00B_n00C_/00C4a100B*~00C1wp00B.4oe7C|!#$%&()*+,.,/01234/454+6789:;<;=><>49=?=@A@A>A7BC878D87A@=;EFA@=9G@4>4@A@A7A>4>4@A@A@A@=;H|<-04>4",
  "-16547,0,LMT;-16200,0,-0430;T|-2k^7odB28./@dC|!#|AST4",
  "-4480,0,LMT;K;K;V;V;Y|-2a5_,kB2z5f,kE19]00C1c:00D1c:00C1f!00C%$00F|!#$%&%&%&%(%&%&%&%&%&%(%&%&%&%&%&)|GMT0",
  "-33460,0,LMT;-28800,1,YDT;-32400,0,YST;-28800,1,YWT;-28800,1,YPT;-25200,1,YDDT;g;o;G|-2:@e)kC)_p)kB1in00C1o100B13^00C@er00D8x000Eiz00C/$/00F1f!00Cjr!00Gf;d00H1c/00G1c;00H1fz00G1a100H14p00H1lb00G1n~00G11#00H?d00H1zb00G<p00H1z900I|!#$%&()*+,./0101232101010454676764545467676454545467676454546767689:9:989:9:9:9:9:989:9:9:9:;|MST7",
  "-28856,0,LMT;o;g;-25200,1,PWT;-25200,1,PPT;G|-3tof~4C1nsp~4B1in00C])p00D8x100Eiy00C3;#00B11z00C1o100B1q;00B_/00C1c/00C1c;00B1fz00C1a100B:/00F|!#$%&()*+*+*,.,*+*+*+*+*,*+*+*+*+*,.,/0/0/01210/0/0/0/0103|MST7",
  "-25196,0,LMT;X;G;G;w;z|-3t((00D1n&e00B1n~00C11#00B1q/00C_;00Bmn00C<rd00E8x200Fix00C/$;00B1fz00C1a100B1c;00B1c/00Cs100B1^z00C/#00B1#~00C14p00B1lb00C?d00B1zb00C<p00B|!#$%$%&()*+,./0/121212121/121234561/0/121212121/0/121212787$%$%$78787$%$%$7878787$%$%$78787$%$%$9:;:;:9:;:;:;:;:;:9:;:;:;:;:9:;:;:;:;:;:9:;:;:;:;:9:;:;:;:;:;:|MST7MDT,M3.2.0,M11.1.0",
  "-19931,0,LMT;C;H;-14400,1,EWT;-14400,1,EPT;Z|-2$gir;Bpeqr;C156/00D8x400Eiv00C6fd00F11z00C,x~10F@:~0C1c;00F1c/00Ca_100Fs100F1^z00C1fz00C1a100F14p00F1lb00C1n~00C11#00F?d00F1zb00C<p00F|!#$%&()*+,./.01,.,232,.,.,.,.,232,.,.,.454676764545467676454545467676454546767689:9:989:9:9:9:9:989:9:9:9:989:9:9:9:9:989:9:9:9:989:9:9:9:9:9|EST5EDT,M3.2.0,M11.1.0",
  "-14736,0,LMT;T|-2mrv?oB|!|AST4",
  "-27232,0,LMT;X;G;w;z|-2yd4q8Cshdq8B1in00C17d00Bhz00C2d#00B1fz00C1a100B11z00C1q;00B_/00C+);00D8x200Eix00C3;#00B~>p00B1c/00C1c;00B14p00B1lb00C1n~00C11#00B?d00B1zb00C<p00B|!#$%&()*+,.,+/012+345454545)*)545454545)*)5454546768989867676898986767676898986767689898:;<;<;:;<;<;<;<;<;:;<;<;<;<;:;<;<;<;<;<;:;<;<;<;<;:;<;<;<;<;<;|MST7MDT,M3.2.0,M11.1.0",
  "-16768,0,LMT;-14400,1,-04;q;L;q|-2glvkwC*d/kwB1cc00C1e100B1b~00C&zd00B@o00C1v!00B:n00C1##00B:/00Cz~00Cqe100Bxb00C2ep00Bnz00C1$100B/~00C*2100B?b00C1t#00B+/00C1(d00B(~00Cd=#00B<n00Cy[d00Dd5~00C_@ne7C|!#$%&()*+,.,/01234/454+6789:;<=>?@|<-05>5",
  "-21408,0,LMT;I;C|-1~i)3cC2(vc3cB_/00C1q;00B|!#$%$|CST6",
  "-29447,0,LMT;o;g;-25200,1,PWT;-25200,1,PPT;G|-3tof;dC1nsp;dB1in00C])p00D8x100Eiy00C3;#00B11z00C1o100B1q;00B_/00C1c/00C1c;00B1fz00C1a100B14p00B1lb00C1n~00C11#00B?d00B1zb00C<p00B<p00F|!#$%&()*+*+*,.,*+*+*+*+*,*+*+*+*+*,.,/0/0/01210/0/0/0/010/0/0/0/01210/0/0/0/01210/0/0/34356565343435656534343435656534343565657898987898989898:|MST7",
  "-9240,0,LMT;V;K|-2glxq0C*d/q0B1cc00C1e100B1b~00C&zd00B@o00C1v!00B:n00C1##00B:/00Cz~00Cqe100Bxb00C2ep00Bnz00C1$100B/~00C*2100B?b00C1t#00B+/00C1(d00B(~00C1&;00B1*#00B/z00Cnsp00B_/00C5z00C2m;00B<n00C1rs1e7C|!#$%&()*+,.,/01234/454+6789:;<;=>?@8ABCD|<-03>3",
  "-14388,0,LMT;v;T;-10800,1,AWT;-10800,1,APT|-2+s+0cC$w<0cB1in00C])p00D8x500Eiu00Ciq100B11z00C,g100B1c/00C1c;00B1fz00C1a100B14p00B1lb00C1n~00C11#00B?d00B1zb00C<p00B|!#$%&()*+,.,.,.,./0/.,.,.,.,./0/.,.,.,121343431212134343121212134343121213434356767656767676767656767676765676767676765676767676567676767676|AST4ADT,M3.2.0,M11.1.0",
  "-14500,0,LMT;-12652,0,NST;-9052,1,NDT;-12600,0,NST;-9000,1,NDT;-9000,1,NPT;-9000,1,NWT;v;T;-7200,1,ADDT;v|-3toj_kB1nsptcC1in00B%~b00D2*b~8E_/00D1q;00E1t#00E[~00D1q;00G7]*u0Fitu0D1ld00E11z00D1o100E1fz00D1c;00E1c/00D@100Ig0u0H1fz00I1c;00H1c/00I1a100H14n10H1lb00I14p00J1n_00I11$00H1n~00I11#00H14p00H?d00H1zb00I<p00H1zc~0I|!#$%&()()(*+*()(,./*()()()(*(0121212121)12121212345454545436789:9:9:9:989:9:9:9:98;89:9:9:9:98;89:9:9:<=>?@ABAC=C=CABABAC=C=C=CABABAC=C=CABABADEFEFEDEFGFEFEFEFEDEFEFEFEFEDEFEFEFEFEFEDEFEFEFEFEDEFEFEFEFEFE|AST4ADT,M3.2.0,M11.1.0",
  "-17072,0,LMT;-18430,0,KMT;H;Z;T;H|-3e/vfsB?.0m$C2**#><D1c/00C1c;00D1fz00C1a100D14p00D1lb00C1n~00C11#00D?d00D1zb00C<p00D<p00E7j!00D|!#$%&%&%&()(&%&%&%*+*,.,.,*+*+*,.,.,*+*+*+*,.,.,*+*+*,.,.,/01010/0101010102301010/01010101010/010101010/01010101010|EST5EDT,M3.2.0,M11.1.0",
  "-14820,0,LMT;T|-2mrv?0B|!|AST4",
  "-14768,0,LMT;T|-2m!*?>B|!|AST4",
  "-21724,0,LMT;I;C|-24.h^]C2ef~^]B!n00Cmtd00B;z00Cif#00B17b00Cz%#00B11z00C|!#$%&()*+|CST6",
  "-19160,0,LMT;-18840,0,QMT;-14400,1,-04;q|-3e/u&&B1%;z@&D2u+/.0Crz00D1;rze7D|!#$%&|<-05>5",
  "-13959,0,LMT;L;-13500,0,-0345;K;L|-2mf87lB8*c7lC2r7b,0D&y0f0B1=w/e7B|!#$%&|<-04>4",
  "-15264,0,LMT;v;T;-10800,1,AWT;-10800,1,APT|-2+s*,!Cxzz,!B1db00C3+300B1in00C3*~00B+/00C1&100B:/00C1y;00B=b00C1#d00B:n00C?z00C1w100B~b00C/~00C/z00C1$100B,z00C</00C]n00C1qp00B11~00C1*#00B(~00C1##00B1td00B?f00D8x500Eiu00C1o100B11z00C3>p00B6i100B1c/00C1c;00B1fz00C1a100B14p00B1lb00C1n~00C11#00B?d00B1zb00C<p00B|!#$%&()*+,./0/12324232567*8,9:3:;25<46=23:3>4?3:3@ABCDCDCDCDEDCDCDCDEDCDCDCDFGHGHGHIJIHGHGHGHGHIHGHGHGHGHIJIHGHGHGHGHIJIHGHGHGKLKMNMNMKLKLKMNMNMKLKLKLKMNMNMKLKLKMNMNMOPQPQPOPQPQPQPQPQPOPQPQPQPQPOPQPQPQPQPQPOPQPQPQPQPOPQPQPQPQPQP|AST4ADT,M3.2.0,M11.1.0",
  "-19768,0,LMT;-19776,0,HMT;-14400,1,CDT;-18000,0,CST;-18000,0,CST;-14400,1,CDT|-3e/uuwB1qx008D72zuoC:/00Dsld00C!n00D1;d00C%b00D6&p00C,%d00C:n00D1!p00C<n00D1fd00C11~00D1q;00C_/00D1wp00C1c/00D1c;00C1fz00D14n00D1ld00C14/00D1k;00C15b00D1kp00C1a100C1f#00C11z00D14p00C1n~00D11#00C1o100C1lb00D1in00D1f!00E1a000C1c:00C1c:00E17c00F1o000E11!00F1q:00E14o00F1lc00E6i000E?c00F1wo00E]000F1t!00E1zc00E<o00F|!#$%&()*)(+()(,./0123456767879:;<=>678?8@ABCDCEAEAEAE9:9DCDCBFBF?G?HIHIHIHIHJKJHLMNONMNMPQPQNRSTUVSTUTUWUOXWXWXWSWXWXWXWXWSWXWXWXWXWXWSWXWXWXWXWSWXWXWXWXWXW|CST5CDT,M3.2.0/0,M11.1.0/1",
  "-26632,0,LMT;G;C;X;G|-1]>(00Bdeo00C8lz00E16p00D11z00E1dd00Cot~00E2bm=00D1lb00E14p00D|!#$%&()*+,+,+|MST7",
  "-20678,0,LMT;I;C;C;i;l;H;Z|-3t()00D1n&e00B1n~00C11#00B>+100B%b00C?#00E8x300Fiw00C1o100B11z00C1q;00B_/00C1o100G5[z00Cq/b00H1c/00G1c;00H1qhd00H1n~00G?d00H1zb00G<p00H|!#$%$&()*+,.,.,.,./0/.,.,.,.12134546789:9:989:9:9:9:9:989:9:9:9:989:9:9:9:9:989:9:9:9:989:9:9:9:9:9|EST5EDT,M3.2.0,M11.1.0",
  "-20790,0,LMT;I;C;i;l;C;H;C|-3t()00F1n&e00B1n~00C11#00B@g;00D8x300Eiw00C3;#00B11z00C1o100B1q;00B_/00C1fz00C1c;00B1c/00C1c;00G3$n00C8wp00Bs100B1^z00C/#00B1#~00C1a100B14p00B1lb00C1lb00Gz8o00B1o000C?d00B1zb00C<p00B|!#$%$&()*+,+,+./.+,+,+,+,0121+,+,210123452121212101212678910:01212121210:0121212;<;$%$%$;=>?@ABABA@ABABABABABA@ABABABABA@ABABABABABA@ABABABABA@ABABABABABA|CST6CDT,M3.2.0,M11.1.0",
  "-20723,0,LMT;I;C;i;l;C;H;Z|-3t()00F1n&e00B1n~00C11#00B@g;00D8x300Eiw00Cdy;00B11z00C6fd00B1o100B1q;00B1q;00Gjrz00H1c/00G1c;00H1fz00Gs100B1^!00G/!00H1#~00G1e6p00H1n~00G?d00H1zb00G<p00H|!#$%$&()*+,+.+/+.+.+.+.+0123234323256789:;<=<=<;<=<=<=<=<=<;<=<=<=<=<;<=<=<=<=<=<;<=<=<=<=<;<=<=<=<=<=<|EST5EDT,M3.2.0,M11.1.0",
  "-20947,0,LMT;I;C;i;l;C;H;Z|-3t()00F1n&e00B1n~00C11#00B@g;00D8x300Eiw00Cnj~00B_;00C1q;00B11z00C1o100B1c/00C1c;00B1c;00G3(b00C1fz00Cs100B1^z00C/#00B1#~00C1a100B1fz00G19co00B1o000C?d00B1zb00G<o00H<p00H?d00H|!#$%$&()*+,././././.,010101023101010101410105678149:;<=>?>@>A>@>@>@>@>@>A>@>@>@>@>A>@>@>@>@>@>A>@>@>@>@>A>@>@>@>@>@>|EST5EDT,M3.2.0,M11.1.0",
  "-20823,0,LMT;I;C;i;l;C;H;Z;I;C|-3t()00F1n&e00B1n~00C11#00B@g;00D8x300Eiw00Cnj~00B_;00C1q;00B11z00C1o100B1c/00C1c;00B1c;00G8wn00C1c;00H1c.00G1c/00G1qhd00B1o000C?d00B1zb00C<p00B|!#$%$&()*+,././././.,0101023104546789:;:;:9:;:;:;:;:;:9:;:;:;:;:9:;:;:;:;:;:9:;:;:;:;:9:;:;:;:;:;:|CST6CDT,M3.2.0,M11.1.0",
  "-20416,0,LMT;I;C;i;l;C;H;Z|-3t()00F1n&e00B1n~00C11#00B@g;00D8x300Eiw00Ck=#00G!wn00H1c/00G1c;00H1fz00G1lnd00H1n~00G?d00H1zb00G<p00H|!#$%$&()*+,.,./.,0123434323434343434323434343432343434343432343434343234343434343|EST5EDT,M3.2.0,M11.1.0",
  "-21007,0,LMT;I;C;i;l;C;H;Z|-3t()00F1n&e00B1n~00C11#00B@g;00D8x300Eiw00C1o100B11z00Cg0p00B1q/00B_;00C1q;00B1fz00C1c;00B_/00C1c/00C1c;00Gca/00H1c/00G1c;00H1qhd00B1o000C?d00B1zb00G<o00H<p00H?d00H|!#$%$&()*+,+*+./0+*+*+*+*1230424567879:;<=<><?<><><><><><?<><><><><?<><><><><><?<><><><><?<><><><><><|EST5EDT,M3.2.0,M11.1.0",
  "-20785,0,LMT;I;C;i;l;C;H;Z|-3t()00F1n&e00B1n~00C11#00B@g;00D8x300Eiw00C1o100B11z00C1q;00B_/00C1fz00C1c;00B1c/00C1q;00Gjrz00H1c/00G1c;00H1qhd00B1o000C?d00H1za00G<p00H1zb00G|!#$%$&()*+*+*+*+,.,+*+*+*+*/010+*+*+*+234546789:;:;8;:;:;:;:;:;8;:;:;:;:;8;:;:;:;:;:;8;:;:;:;:;8;:;:;:;:;:;|EST5EDT,M3.2.0,M11.1.0",
  "y;o;g;G;X|-(n!00C/3.00B1c/00C1c;00B1fz00C1a100B1c;00E1c.00D1c/00D1fz00D1a100E14p00E1lb00D1n~00D11#00E?d00E1zb00D<p00E|!#$%$%$%$%&(&%$)*)+)+),.,)+)+)+/0/12121/0/0/12121/0/0/0/12121/0/0/1212134545434545454545434545454543454545454543454545454345454545454|MST7MDT,M3.2.0,M11.1.0",
  "y;-14400,1,EPT;H;Z;-14400,1,EWT;C;I;Z;H|-16.000E7n~00Biv00C14*#00D1c/00C1c;00D1fz00C1a100D14p00D1lb00C1n~00C11#00D1n~00F11$00G11!00D?d00D1zb00C<p00D|!#$%&(&(&(&()*)(&(&(&(&()*)(&(&(&+,+././.+,+,+././.+,+,+,+01.2.+,+,+././.34545434545454545434545454543454545454543454545454345454545454|EST5EDT,M3.2.0,M11.1.0",
  "-18430,0,LMT;-18430,0,KMT;H;Z|-3e/u><B?.000C2u:1><D1^z00C/#00D1#~00C1c;00D1fz00C1a100D1c/00C|!#$%&()*+*),),),),)*+*|EST5",
  "54139,0,LMT;-32261,0,LMT;g;-25200,1,PWT;-25200,1,PPT;o;-28800,1,YDT;-32400,0,YST;-28800,1,AKDT;-32400,0,AKST|-48=zs/B1j^wqsC1&~12jD8x100Eiy00C^o100F1c/00C1c;00F1fz00Cs100F1^z00C/#00F1#~00C1a100F1c;00G1c:00C1c:00F1fz00Hco00J10q00I1c/00J1c;00I14p00I1lb00J1n~00J11#00I?d00I1zb00J<p00I|!#$%&()*)*+*)*),./0*+1+*)*)234)*+156789898:;:<=<=<:;:;:<=<=<:;:;:;:<=<=<:;:;:<=<=<>?@?@?>?@?@?@?@?@?>?@?@?@?@?>?@?@?@?@?@?>?@?@?@?@?>?@?@?@?@?@?|AKST9AKDT,M3.2.0,M11.1.0",
  "-20582,0,LMT;I;C;C;i;l;H;Z|-3t()00D1n&e00B1n~00C11#00B3(d00B;b00C/=d00B11z00C?#00E8x300Fiw00C1n~10Be0~0C9vd00B_/00C1q;00B1o100B1c/00C1c;00B1fz00Cxz00Ggso00H1c/00G1c;00H1fz00Gs100B1^!00G/!00H1#~00G1a100H14p00H1lb00G1n~00G11#00H?d00H1zb00G<p00H|!#$%$&()*+,./0123*4*4*4*4*3565656567689:;:;:;<;:;:=>?@;<A<;:;:;:;:;<A<;:;:;:BCBDEDEDBCBCBDEDEDBCBCBCBDEDEDBCBCBDEDEDFGHGHGFGHGHGHGHGHGFGHGHGHGHGFGHGHGHGHGHGFGHGHGHGHGFGHGHGHGHGHG|EST5EDT,M3.2.0,M11.1.0",
  "-20364,0,LMT;I;C;i;l;C;Z;H|-3t()00F1n&e00B1n~00C11#00B@g;00D8x300Eiw00C@_p00B1c/00C1c;00B1fz00Cs100B1^z00C/#00B1#~00C1a100B14p00B1lb00C1n~00H11!00G14p00G1lb00H11#00G?d00G1zb00H<p00G|!#$%$&()*+,+,+,.,+,+/012,.3.,+,+,+,+,.3.,+,+,+454$%$%$45454$%$%$4545454$%676898986:6:6;<=<=<;<=<=<=<=<=<;<=<=<=<=<;<=<=<=<=<=<;<=<=<=<=<;<=<=<=<=<=<|EST5EDT,M3.2.0,M11.1.0",
  "-16356,0,LMT;-16356,0,CMT;-12756,1,BST;L|-3e/vroB1(+o00C13b00D4h(~(vD|!#$%|<-04>4",
  "-18492,0,LMT;-18516,0,LMT;-14400,1,-04;q|-3e/u=:B,c:0oD1b%z=oCz~00D1a;00C1c/00D1c;00C1=r#00C1<100C6)p00C98p00C1.%ze7D|!#$%&()(*%+%,%.%/|<-05>5",
  "-28378,0,LMT;o;g;-25200,1,PWT;-25200,1,PPT;g|-3t(&00F1n&e00B1n~00C11#00B@g;00D8x100Eiy00C5_p10B1^a~0C3d!00B_:00C1q:00B11!00C1o000B1c:00C1c:00B1f!00C1a000B1c;00B1c/00C1fz00Cs100B1^z00C/#00B1#~00C1a100B14p00B1lb00C?d00B1zb00C<p00B|!#$%$&()*+,./010101010/010101010/./232323454676767676867679:;<68=86767676768=8676767>?>$%$%$>?>?>$%$%$>?>?>?>$%$%$>?>?>$%$%$@ABABA@ABABABABABA@ABABABABA@ABABABABABA@ABABABABA@ABABABABABA|PST8PDT,M3.2.0,M11.1.0",
  "-8572,0,LMT;V;K|-2glx#8C*d/#8B1cc00C1e100B1b~00C&zd00B@o00C1v!00B:n00C1##00B:/00Cz~00Cqe100Bxb00C2ep00Bnz00C1$100B/~00C*2100B?b00C1t#00B+/00C1(d00B(~00C1&;00B1*#00B/z00Cd:;00B8>100B_/00C5z00C2m;00B<n00C1rs1e7C|!#$%&()*+,.,/01234/454+6789:;<;=>?>@A8BCDE|<-03>3",
  "-20708,0,LMT;-20712,0,MMT;C;H;I;C|-3e/ue>B1:hc04C1y!:e:D4mn00C9]p00E%z00C1.100Es3(00D1.*00C%#00D9+n00Ck8p00E19~00C1o300E11y00C|!#$%&()(*+,./012|CST6",
  "-14404,0,LMT;Q;L|-2glv~]C*d.~]B1cc00C1e100B1b~00C&zd00B@o00C1v!00B:n00C1##00B:/00Cz~00Cqe100Bxb00C2ep00Bnz00C1$100B/~00C*2100B?b00C1t#00B+/00C1(d00B(~00Cd=#00B<n00C1.[!e7C|!#$%&()*+,.,/01234/454+6789:;<=>|<-04>4",
  "-14660,0,LMT;-14660,0,FFMT;T;v|-3e/v[&B=[!00C2/=b[&D19~00C|!#$%|AST4",
  "-23400,0,LMT;C;I;C|-1]>)00B2(j$00C1n~00Di6p00C1lb00D14p00C11#00C1f#00C_/00D]100C1zb00D<p00C?d00C|!#$%&(&(&($)$*+*&(&($)$)$)$(&(&,./././././.0././././.0./././././.0././././.0./././././.|CST6CDT,M3.2.0,M11.1.0",
  "-25540,0,LMT;G;C;X;G|-1]>(00Bdeo00C8lz00E16p00D11z00E1dd00Cot~00E2bm=00D1lb00E14p00D1n~00E11#00D1f#00D_/00E|!#$%&()*+,+,+,./.010+,+,./././.,+,+,././.,+,+,+,././.,+,+,./.|MST7",
  "-21027,0,LMT;I;C;i;l;H;C|-3pd)9xC1jce9xB1n~00C11#00B@g;00D8x300Eiw00C1o100B11z00C/$;00B1fz00C64100F9,b00B1c:00Cs100B1^z00C/#00B1#~00C1c;00B1a100B1c/00C14p00B1lb00C?d00B1zb00C<p00B|!#$%$&()*+,./0123456.7.686868686.7.6868689:9$%$%$9:9:9$%$%$9:9:9:9$%$%$9:9:9$%$%$;<=<=<;<=<=<=<=<=<;<=<=<=<=<;<=<=<=<=<=<;<=<=<=<=<;<=<=<=<=<=<|CST6CDT,M3.2.0,M11.1.0",
  "-21508,0,LMT;C;H;I;C|-1]>)00B2q3$00C24n00Ew)100D1lb00E14p00D1n~00E11#00D1f#00D_/00E|!#$%&(&(&()*)+,+&(&()*)*)*)(&(&()*)*)(&(&(&()*)*)(&(&()*)|CST6",
  "54822,0,LMT;-31578,0,LMT;g;-25200,1,PWT;-25200,1,PPT;o;-32400,0,AKST;-28800,1,AKDT|-48=zs/B1j^wf5C1&~1d)D8x100Eiy00C^o100F1c/00C1c;00F1fz00Cs100F1^z00C/#00F1#~00C1a100F1h]100G?d00H1zb00G<p00H1zb00Cu:00Gj#00H|!#$%&()*)*+*)*),./0*+1+*)*)*)*)*+1+2345456784543454545454543454545454345454545454|AKST9AKDT,M3.2.0,M11.1.0",
  "-23796,0,LMT;G;C;X;G;I;i;C|-1]>(00Bdeo00C8lz00E16p00D11z00E1dd00Cg&n00F[~00C3xd00F,b00C6z#00G@/00Ce5d00F17b00C1=ff00F1lb00C14p00F1n~00C11#00F1f#00F_/00C|!#$%&()*+,./01234343456578734345656565434345656543434345656543434565|CST6",
  "-13480,0,LMT;T;K;V|-2mx]fkB2/*cfkCg>100D1lb00C14p00D1n~00C11#00D?d00D1zb00C<p00Dvze7C|!#$%&()()(&%&%&()()(&%&%&%&()()(&%&%&()()(*+,+,+*+,+,+,+,+,+*+,+,+,+,+*+,+,+,+,+,+*+,+,+,+,+*+,+,+,+,+,+.|<-03>3<-02>,M3.2.0,M11.1.0",
  "-15548,0,LMT;H;v;T;-10800,1,AWT;-10800,1,APT|-3txv&>B,4:&>D$w;00C1in00Dz!o00C!n00D1;d00C1.100C/z00D1z#00C;~00D1u100C_n00D@200E8x500Fiu00D1o100C11z00D1q;00C_/00D1c/00D1c;00C1fz00D1a100C3$p00C14p00C1lb00D1n~00D11#00C14n10C?e~0C1zb00D<p00C?d00C|!#$%&()()()()()(*+,./012345454545676545454545654898989:989898989:;:989898989:98<8989:;:989898989:;:989898=>=?@?@?=>=>A?@?@?=>=>=>=?@?@?=>=>=?@?@?BCDCDCECDCDCDCDCDCECDCDCDCDCECDCDCDCDCDCECDCDCDCDCECDCDCDCDCDC|AST4ADT,M3.2.0,M11.1.0",
  "-24076,0,LMT;G;C;X;G;I;C|-1]>)00Bdep00C8lz00E16p00D11z00E1dd00C2gmp00F1n~00Ci6p00F1lb00C14p00F11#00F1f#00F_/00C|!#$%&()*+,.,.,.*/*010,.,.*/*/*/*.,.,.*/*/*.,.,.,.*/*/*.,.,.*/*|CST6",
  "-13491,0,LMT;-13491,0,MMT;L;-12600,0,-0330;Q;K;-9000,1,-0230;V;-5400,1,-0130;V|-2t?]f9Bs^c00C8jcf9E1db00D1dcu0E1c/u0Dircu0E11zu0D1o0u0E1q:u0E_/u0D1f!u0E;!u0E3j~u0Gz~u0F%q0u0G19~u0Fpcu0Hjz00Fcm100H19~00F6t#00G1fbu0F3o0u0Hj~00F4v#00Hxz00F3$p00Immu0G1a100F+:u0H%b00F4c100Hu/00F1;d00H!n00F1@;00Hmp00H28/00Fi=#00Hun00F1zd00H/z00F?b00F<n00F1wp00Hs8p00H1f#00F1ip00H11z00F1ld00H14n00F1o100H[(be7F|!#$%&(&()*+*+*+*,.,./(+*0123456789:;<=>?@ABCDEFGHEIJKLH>MNMOMPQORSTUVWXUXUXWVWVWXUXUXUY|<-03>3",
  "-14932,0,LMT;T|-2mrv<8B|!|AST4",
  "-18570,0,LMT;-14400,1,EWT;H;-14400,1,EPT;Z|-2k;u<uC1drb<uB6t~00Ccp00B1h@00Dp(00C,6300E1c/00C1c;00E1fz00C1a100E14p00E1lb00C1n~00C11#00E?d00E1zb00C<p00E|!#$%&()*+,.,+*+*+*+*+,+*+*+*+*+,.,+*+*+*+*+,.,+*+*+*/0/12121/0/0/12121/0/0/0/12121/0/0/1212134545434545454545434545454543454545454543454545454345454545454|EST5EDT,M3.2.0,M11.1.0",
  "-17762,0,LMT;Z;H;H;-14400,1,EWT;-14400,1,EPT|-3t(*00D1n&e00B1n~00C11#00B1q/00C1a100B11z00C1q;00B_/00C1o100B?#00E8x400Fiv00C1fz00C1c;00B1c/00Cs100B1^z00C/#00B1#~00C14p00B1lb00C?d00B1zb00C<p00B|!#$%$%&()*+*),),),),)*),),),),)*+*),),),),)*+*),)./0,),),),)*+*),),),),123232323212323232321(123232323212323456721(12323232321(1232323898$%$%$89898$%$%$8989898$%$%$89898$%$%$:;<;<;:;<;<;<;<;<;:;<;<;<;<;:;<;<;<;<;<;:;<;<;<;<;:;<;<;<;<;<;|EST5EDT,M3.2.0,M11.1.0",
  "46702,0,LMT;-39698,0,LMT;-39600,0,NST;-36000,1,NWT;-36000,1,NPT;-39600,0,BST;-36000,1,BDT;-32400,0,YST;-28800,1,AKDT;-32400,0,AKST|-48=zs/B1j^yupC1&~1_mD8w_00Ei#00C>lb00F52<00G1c/00F1c;00G1fz00Fs100G1^z00F/#00G1#~00F1a100G1fz00Hcl00J10q00I1c/00J1c;00I14p00I1lb00J1n~00J11#00I?d00I1zb00J<p00I|!#$%&()*+*+,+*+*./01+,2,+*+*+*+*+,234567676898:;:;:89898:;:;:8989898:;:;:89898:;:;:<=>=>=<=>=>=>=>=>=<=>=>=>=>=<=>=>=>=>=>=<=>=>=>=>=<=>=>=>=>=>=|AKST9AKDT,M3.2.0,M11.1.0",
  "-7780,0,LMT;-3600,1,-01;x|-2glx<kC*d.<kB1cc00C1e100B1b~00C&zd00B@o00C1v!00B:n00C1##00B:/00Cz~00Cqe100Bxb00C2ep00Bnz00C1$100B/~00C*2100B?b00C1t#00B+/00C1(d00B(~00C1&;00B1*#00B/z00Cnsp00B_/00C2/00C2p#00B<n00C1rs2e7C|!#$%&()*+,.,/01234/454+6789:;<;=>?@8ABCD|<-02>2",
  "-24427,0,LMT;X;G;w;z;G;I;C|-3t((00F1n&e00B1n~00C11#00B@g;00D8x200Eix00C>w;00B1c/00C1c;00B1fz00Cs100B1^z00C/#00B1#~00C1a100B14p00B1lb00C?d00B1zb00C<p00B1zb00H<o00G<p00G?d00G|!#$%$&()*+,+,+,+,.,+,+/012,.3.,+,+,+,+,.3.,+,+,+454$%$%$45454$%$%$4545454$%$%$45454$%$%$67878769:9;9;9;9;9<9;9;9;9;9<9;9;9;9;9;9<9;9;9;9;9<9;9;9;9;9;9|CST6CDT,M3.2.0,M11.1.0",
  "-24312,0,LMT;X;G;w;z;G;I;C|-3t((00F1n&e00B1n~00C11#00B@g;00D8x200Eix00C>w;00B1c/00C1c;00B1fz00Cs100B1^z00C/#00B1#~00C1a100B14p00B1lb00C1lb00H14o00G1n~00H11#00G14p00G?d00G1zb00H<p00G|!#$%$&()*+,+,+,+,.,+,+/012,.3.,+,+,+,+,.3.,+,+,+454$%$%$4546789898:6:6:6:89898:6:6:89898;<=<=<;<=<=<=<=<=<;<=<=<=<=<;<=<=<=<=<=<;<=<=<=<=<;<=<=<=<=<=<|CST6CDT,M3.2.0,M11.1.0",
  "-24339,0,LMT;X;G;w;z;G;I;C|-3t((00F1n&e00B1n~00C11#00B@g;00D8x200Eix00C>w;00B1c/00C1c;00B1fz00Cs100B1^z00C/#00B1#~00C1a100B14p00B1lb00C1lb00H14o00G1n~00H11#00G?d00G1zb00H<p00G|!#$%$&()*+,+,+,+,.,+,+/012,.3.,+,+,+,+,.3.,+,+,+454$%$%$45454$%$%$4545454$%$%$4546789898:;<;<;:;<;<;<;<;<;:;<;<;<;<;:;<;<;<;<;<;:;<;<;<;<;:;<;<;<;<;<;|CST6CDT,M3.2.0,M11.1.0",
  "-12416,0,LMT;K;K;V;V;x;-3600,1,-01|-2a5]x4B2z5dx4E19]00C1c:00D1c:00C1f!00C1f!00D1o000C11!00D1q:00C_:00D_:00F2so00G1o000F11!00G1q:00F_:00Gyqe7F|!#$%&%&%&%(%&%&%&%&%&%(%&%&%&%&%&)*+*+*+,.,.,+*+*+,.,.,.,+*+*+,.,.,+*+*+*+,.,.,+*+*+,.,/01212123434321212343434321215|<-02>2<-01>,M3.5.0/-1,M10.5.0/0",
  "-25060,0,LMT;G;C;X;G;I;C|-1]>(00Bdeo00C8lz00E16p00D11z00E1dd00C2z>;00F1lb00C14p00F14q00D1lb00E14p00D1n~00E11#00D1f#00D_/00E]100D1zb00E<p00D?d00D1wn00C?c00F1zb00C<p00F?d00F|!#$%&()*+*,./010232././0101010/./.456565656565756565656575689:;:;:;:<:;:;:;:;:<:;:;:;:;:;:|CST6CDT,M3.2.0,M11.1.0",
  "-19088,0,LMT;-19176,0,CMT;H|-3e/u(>B+y01sC|!#|EST5",
  "-13240,0,LMT;-13252,0,PMT;-13236,0,PMT;-12600,0,-0330;K|-2n%]jkB_qo0cCqan~+D1y^~;oE29/b+7E|!#$%&|<-03>3",
  "-26898,0,LMT;X;G;w;G|-3t((00E1n&e00B1n~00C11#00B@g;00D4!l10C!p00D1db00C@_q~0B1c/00C|!#$%$&()*+,|MST7",
  "-17360,0,LMT;-17340,0,PPMT;Z;H;Z;H|-3e/va&B15?/~&D2(n:b0C19~00D1c;00C1c/00D14q00E1o000F11!00E14o00E1lc00Fi6n00C1n~00D11#00Cd4300C1zb00D<p00C3i;00C?d00C|!#$%&(&(&(&()*+*+*,.,.,*+*+*,.,./01023434343534343436343434343436343434343634343434343|EST5EDT,M3.2.0,M11.1.0",
  "-14764,0,LMT;T|-2k;v?]B|!|AST4",
  "-15336,0,LMT;Q;L|-2glv+oC*d.+oB1cc00C1e100B1b~00C&zd00B@o00C1v!00B:n00C1##00B:/00Cz~00Cqe100Bxb00C2ep00Bnz00C1$100B/~00C*2100B?b00C1t#00B+/00C1(d00B(~00C21#!e7C|!#$%&()*+,.,/01234/454+6789:;<|<-04>4",
  "-15865,0,LMT;T;-10800,1,APT;-10800,1,AWT|-2>i7zzB1+]bzzD7~[00Ciu00B|!#$%|AST4",
  "-17020,0,LMT;-16965,0,SMT;q;L;-14400,1,-04;Q;L;K|-3e/vgkB:,b~5Cf,!hfB5kn),D1^zhfBj?!),E1pbhfC11d00E1o/00C1pb00C11d00Dn*~00Cop00D9[z00E1q000Cko00D>eo00F_/00G1zd00F<n00G1ip00F11z00G1o100F1q;00F1ld00F14n00G1c/00G1c;00F1f#00F19~00G17b00G1fz00G1n~00G)100F1&/00G<p00F1zb00G?d00F1wn00G46n00G!p00F+/00H=qoe7H|!#$%&()*+*+*+*,./0123456789:9;5<=;5;9:9:9;5;5;9:9:9:9;5;5;>?9:9;5@A;9:9:9:9;5;B898C@9;5;5;5;9:9:9;5;B89:A@DEFGHIJIKLMN|<-03>3",
  "y;I;C;H;C|-v%c00C#jk00B1c/00C1c;00B1fz00C1a100B14p00B1lb00C1n~00C11#00B1n~00D?d00B1zb00C<p00B|!#$%$%$%$%&(&%$%$%$%$%&(&%$%$%$)*)+,+,+)*)*)+,+,+)*)*)*)+,.,+)*)*)+,+,+/01010/01010101010/010101010/01010101010/010101010/01010101010|CST6CDT,M3.2.0,M11.1.0",
  "-8376,0,LMT;V;K|-2glx&oC*d/&oB1cc00C1e100B1b~00C&zd00B@o00C1v!00B:n00C1##00B:/00Cz~00Cqe100Bxb00C2ep00Bnz00C1$100B/~00C*2100B?b00C1t#00B+/00C1(d00B(~00C1&;00B1*#00B/z00Cnsp00B_/00C2/00C2p#00B<n00C1rs1e7C|!#$%&()*+,.,/01234/454+6789:;<;=>?@8ABCD|<-03>3",
  "-25116,0,LMT;X;G;w;z;C|-2!%51oCu*e1oB1in00Cs2/00B11z00C1o100B1q;00B_/00C66;00B1c/00C1c;00B19~00C1f#00B:300D8x200Eix00C1ip00B3;#00B1c;00F|!#$%&(&(&)*)&+,./0,0,.,1234,4&(&(&)*)&(&(&(&(&)&(&5,6|CST6",
  "y;I;C;H;C|-@n!00C103+00B1c/00C1c;00B1fz00C1a100B14p00B1lb00C1n~00C11#00B1n~00D?d00B1zb00C<p00B|!#$%$%$%$%&(&%$%$%$%$%&(&%$%$%$)*)+,+,+)*)*)+,+,+)*)*)*)+,.,+)*)*)+,+,./01010/01010101010/010101010/01010101010/010101010/01010101010|CST6CDT,M3.2.0,M11.1.0",
  "-16272,0,LMT;-14400,1,-04;q;L;q|-2glvs:C*d/s:B1cc00C1e100B1b~00C&zd00B@o00C1v!00B:n00C1##00B:/00Cz~00Cqe100Bxb00C2ep00Bnz00C1$100B/~00C*2100B?b00C1t#00B+/00C1(d00B(~00C;#d00Dd5~00C_@ne7C|!#$%&()*+,.,/01234/454+6789:;<=>|<-05>5",
  "-13128,0,LMT;Q;L;K|-2glwlcC*d/lcB1cc00C1e100B1b~00C&zd00B@o00C1v!00B:n00C1##00B:/00Cz~00Cqe100Bxb00C2ep00Bnz00C1$100B/~00C*2100B?b00C1t#00B+/00C1(d00B(~00C;#d00D1c0ne7D|!#$%&()*+,.,/01234/454+6789:;<=|<-03>3",
  "-16965,0,LMT;-16965,0,SMT;q;L;-14400,1,-04;Q;Q;L|-3e/vhfB:,c00Cf,!hfB5kn),D1^zhfBj?!),E1pbhfC11d00E1o/00C1pb00C11d00Dn*~00Cop00D9#z00Fh~00E1q100Cko00D>eo00G_/00H1zd00G<n00H1ip00G11z00H1o100G1q;00G1ld00G14n00H1c/00H1c;00G1f#00G19~00H17b00H1fz00H1n~00H)100G1&/00H<p00G1zb00H?d00G1wn00H46n00H!p00G1;b00H11#00G14p00G1lb00H1q/00H_;00G?~e7G|!#$%&()*+*+*+*,./0123456789:;:<6=><6<:;:;:<6<6<:;:;:;:<6<6<?@:;:<6AB<:;:;:;:<6<C9:9DA:<6<6<6<:;:;:<6<C9:;BAEFGHIJKJLMNMNMIOEOEOEPQOROEOEOEOEORSROEOEOEOEORSROEOT|<-04>4<-03>,M9.1.6/24,M4.1.6/24",
  "-16776,0,LMT;-16800,0,SDMT;Z;H;-16200,1,-0430;T|-3e/vkoB1,ic0oD1l,:k0C:n00D6sp00E/bu0D1$ou0Ey/u0D1?!u0Ew/u0D1>:u0Exzu0D1>0u0Ex~u0D1=!u0F13j#00De000F|!#$%&()*+,./01234|AST4",
  "-11188,0,LMT;V;K|-2glw?wC*d.?wB1cc00C1e100B1b~00C&zd00B@o00C1v!00B:n00C1##00B:/00Cz~00Cp[d00B=~00C2ep00Bnz00C1$100B/~00C*2100B?b00C1t#00B+/00C1(d00B(~00C1&;00B1*#00B/z00C%b00C<n00C1zd00B1w;00B_n00C_/00C1+p00B*~00C1wp00B.4pe7C|!#$%&()*+,.,/01234/454+6789:;<;=><>49=?=@A@A>A7BC878D87A@=;4>EFA@=9G@4>4@A@A7A>4>4@A@A@A@=;H|<-03>3",
  "-5272,0,LMT;x;-3600,1,-01;x;e;0,1,+00;0,1,+00;-3600,1,-01;x|-2a5_w8B2z5ew8C1a000D1c.00G1c/00E1c:00F1c:00E1f!00E1f!00F1o000E11!00F1q:00E_:00F11!00H1o000I1q:00I_:00Hyqe7I|!#$%&()()(*()()()()()(*()()()()()+,.,.,./0/0/.,.,./0/0/0/.,.,./0/0/.,.,.,./0/0/.,.,./0/0/12121213434312121343434312125|<-02>2<-01>,M3.5.0/-1,M10.5.0/0",
  "53927,0,LMT;-32473,0,LMT;g;-25200,1,PWT;-25200,1,PPT;o;-32400,0,YST;-28800,1,AKDT;-32400,0,AKST|-48=zs/B1j^wu0C1&~0_/D8x100Eiy00C^o100F1c/00C1c;00F1fz00Cs100F1^z00C/#00F1#~00C1a100F1fz00Gco00I10q00H1c/00I1c;00H14p00H1lb00I1n~00I11#00H?d00H1zb00I<p00H|!#$%&()*)*+*)*),./0*+1+*)*)*)*)*+1234565657879:9:9787879:9:978787879:9:9787879:9:9;<=<=<;<=<=<=<=<=<;<=<=<=<=<;<=<=<=<=<=<;<=<=<=<=<;<=<=<=<=<=<|AKST9AKDT,M3.2.0,M11.1.0",
  "-12652,0,LMT;-9052,1,NDT;-12652,0,NST;-9000,1,NDT;-12600,0,NST;-9000,1,NPT;-9000,1,NWT;-5400,1,NDDT;-9000,1,NDT|-3tokt8C1l0200B14/00C1n#00B1in00C1gm00B%z00C1,#00B1c/00C1c;00B1f#00B19~00C10<00Ee.~8D19~00E1iq00D_/00E1q;00D1t#00D[~00E1q;00G7]*u0Fitu0E1ld00D11z00E1o100D1fz00E1c;00D1c/00E1a100D14n10D1lb00E14p00H1n_00E11$00D1n~00E11#00D14p00D?d00D1zb00E<p00D1zc~0E|!#$%&()*+,+././././.+,+././././.+././01234545467645489:6454545464;<=<=<=<=<5<=<=<=<=>?@?@?@?@?>A>?@?@?@?@?>?@?@?@?@?>A>?@?@?@?@?>A>?@?@?@BCDEFGHGICICIGHGHGICICICIGHGHGICICIGHGHGJKLKLKJKLMLKLKLKLKJKLKLKLKLKJKLKLKLKLKLKJKLKLKLKLKJKLKLKLKLKLK|NST3:30NDT,M3.2.0,M11.1.0",
  "-15052,0,LMT;T|-2k;v;8B|!|AST4",
  "-14640,0,LMT;-14640,0,CMT;T|-3e/v]0B?x!00C|!#|AST4",
  "-15584,0,LMT;T|-2mrv&gB|!|AST4",
  "-14696,0,LMT;-14696,0,KMT;T|-3e/v[4B?x!00C|!#|AST4",
  "-25880,0,LMT;X;G;w;z;C|-2!%4:&Cu*d:&B1in00C])p00D8x200Eix00C1o100B17b00C1ip00B11z00Cis;00B1c/00C3$p00B1c;00B1q;00B_/00Cp:p00F|!#$%&()*+,),),./0/1,234|CST6",
  "-20932,0,LMT;I;C|-1_))b8C2&[cb8B_/00C1q;00B)?d00B!/00C|!#$%$&(|CST6",
  "-16508,0,LMT;v;T|-2a5[o>C31;#o>B1c/00C1c;00B1f#00B1n~00C11#00B14p00B1lb00C?d00B1zb00C<p00B|!#$%$&()()(*+*+*+*()()(*+*+*()()(,././.,./././././.,././././.,./././././.,././././.,./././././.|AST4ADT,M3.2.0,M11.1.0",
  "-28084,0,LMT;G;g;G;o;-25200,1,PWT;-25200,1,PPT;g|-1]>(00B4>000C8mp00D8lz00C@;00E1c/00Cp*#00F83r00G!]00C5:;00E1?z00C38;00E_n00C1q=00E11z00C1o100E1o000E11!00C1q:00E_:00C1c:00C1c:00E1f!00C1a000E1c;00E1fz00Cs100E1^z00C/#00E1#~00C1a100E14p00E1lb00C1n~00C11#00E]100E1zb00C<p00E?d00E|!#$%&()*+,./012324545456545454545676898989:;:<(<(<(<(<=<(<(>?@A<=B=<(<(<(<(<=B=<(<(<(CDCEFEFECDCDCEFEFECDCDCDCEFEFECDCDCEFEFEFECDCDGHIHIHIHIHIHJHIHIHIHIHJHIHIHIHIHIHJHIHIHIHIHJHIHIHIHIHIH|PST8PDT,M3.2.0,M11.1.0",
  "-19052,0,LMT;Z;H;-14400,1,EWT;-14400,1,EPT|-32#6)sC](d)sB1in00C11_u0B1nzu0C1f%00B_,00C1wr00B;b00C1!p00B<n00C1zd00B1wp00B[~00C1t#00B_/00C1q;00B11z00C1o100B4k:00D8x400Eiv00C1q/00C11#00B1n~00C1c/00C1c;00B1fz00C1a100B14p00B1lb00C?d00B1zb00C<p00B|!#$%&()*+,./.0121212345656565434565656565654347896565656:;<;565656565456=>=>=>?>=>=>=>=>?@?>=>=>=>=>?>=>=>=>=>?@?>=>=>=>=>?@?>=>=>=ABA<;<;<ABABA<;<;<ABABABA<;<;<ABABA<;<;<CDEDEDCDEDEDEDEDEDCDEDEDEDEDCDEDEDEDEDEDCDEDEDEDEDCDEDEDEDEDED|EST5EDT,M3.2.0,M11.1.0",
  "-15508,0,LMT;T|-2mrv(wB|!|AST4",
  "-29548,0,LMT;o;g;-25200,1,PWT;-25200,1,PPT|-3tof/wC1nsp/wB1in00C])p00D8x100Eiy00C1o100B11z00C1q;00B_/00C1c/00C1c;00B1fz00C1a100B14p00B1lb00C1n~00C11#00B?d00B1zb00C<p00B|!#$%&()*)*)*)*+,+*)*)*)*)*+*)*)*)*)*+,+./././010/././././0/././././010/././././010/././.232454542323245454232323245454232324545467878767878787878767878787876787878787876787878787678787878787|PST8PDT,M3.2.0,M11.1.0",
  "-32412,0,LMT;-28800,1,YDT;-32400,0,YST;-28800,1,YWT;-28800,1,YPT;-25200,1,YDDT;g;o;G|-2:@e~:C)_p~:B1in00C1o100B13^00C@er00D8x000Eiz00C/$/00F1f!00C/!00Gytd00H1c/00G1c;00H1fz00G1a100H14p00H1lb00G1n~00G11#00H?d00H1zb00G<p00H1z900I|!#$%&()*+,./0101232101010454676764545467676454545467676454546767689:9:989:9:9:9:9:989:9:9:9:;|MST7",
  "-23316,0,LMT;I;C;i;l;I;C|-3k/tvoC1a3bvoB_/00C3;%00B1in00C,ap00B?b00Ca$;00D8x300Eiw00C1t#00B11z00C1ip00B1o100B1rd00B10/00C1op00B1q;00B1c/00C1c;00B6i100B6i100F1f!00G1c:00F1c:00G1a000F14o00F1lc00G1o000G11!00F11!00B1n~00C?d00B1zb00C<p00B|!#$%&()*+,./0/1/1/234/1/1/1/1/5/1/1/167/8$9:;<;<;<;<;:;<;<;<;<;:=:;<;<;<;<;:=:;<;<;<>?>@A@A@>?>?>@A@A@>?>?>?>@A@A@>?>?>@A@BCDEFEFEDEFEFEFEFEFEDEFEFEFEFEDEFEFEFEFEFEDEFEFEFEFEDEFEFEFEFEFE|CST6CDT,M3.2.0,M11.1.0",
  "52865,0,LMT;-33535,0,LMT;-32400,0,YST;-28800,1,YWT;-28800,1,YPT;-28800,1,YDT;-28800,1,AKDT;-32400,0,AKST|-48=zs/B1j^w/)C1&~1(5D8x000Eiz00C^o100F1c/00C1c;00F1fz00Cs100F1^z00C/#00F1#~00C1a100Fcn00H10q00G1c/00H1c;00G14p00G1lb00H1n~00H11#00G?d00G1zb00H<p00G|!#$%&()*)*+*)*),./0*+1+*)*)*)*)*+1+23454546768989867676898986767676898986767689898:;<;<;:;<;<;<;<;<;:;<;<;<;<;:;<;<;<;<;<;:;<;<;<;<;:;<;<;<;<;<;|AKST9AKDT,M3.2.0,M11.1.0",
  "y;W;S;W|-2q000B1%j@00C[900B40=00C./00Dblz00C3m100B1o300C14k00B1kr00C12l00B1o010C14k~0B1lf10C13b~0B!cbe7B|!#$%&()*+,./010123|<+08>-8",
  "y;P;J;P|-vyo00Bi~t00Aalj00B1%7v00C^#00D3_n00C.;00D135je7D|!#$%&()*|<+07>-7",
  "y;c|-]0o00Bcfq00Ab(m00B3h,%e7B|!#$%|<+10>-10",
  "y;n;39600,1,AEDT;n;y;39600,1,AEDT;n|-2<=c00B(b400C1a000D4@.00E1ayy00B/vs00F1c:00D1o000F?c00D1wo00F]000D/!00D1$000F<o00D1zc00F11!00D1q:00F_:00D1t!00F1f!00F11!00F1o000D1io00F1c:00F3$o00D1f!00D|!#$%&()*+,+,.,/0121212+21212121212345412121,5656.6.637$7$7$7$7)7$7$7$7$89:$7$7$7$7);$:););<;)7);););););)7);););););=;););););)7);););););)7););|AEST-10AEDT,M10.1.0,M4.1.0/3",
  "y;M;J|-$&o00B2fyk00C18:7e7C|!#$|<+05>-5",
  "y;46800,1,NZDT;43200,0,NZST;43200,0,NZST|-y5!00D,>e00B+:00C1$000B?c00C1zc00B<o00C1q:00B14o00C1lc00B17c00C1io00B1f!00C1a000B1c:00B1io00C|!#$%&()()()()()(&()()()()()(&()*+,+,+,./././.,+,+,././.,+,+,././././010101010201010101010201010101013101010101020101010101020101|NZST-12NZDT,M9.5.0,M4.1.0/3",
  "y;L;Q;V;K;Q;L;K|-cao00Cn%00B1vd00C@/00B17z00B1c;00C1fz00B1c/00B1c;00Easn00D%b00Ejs;00B14;00F11z00G1o100F1q;00F_/00G1c/00G1c;00F1f#00F19~00G17b00G1ip00F1fz00G1n~00G)100F1&/00G<p00F1zb00G?d00F1wn00G46n00G!p00F+/00E=qoe7E|!#$%$&()(*+,./012134343561213478312121213439:1:;713434343121213439:1287<=>?@ABACDEF|<-03>3",
  "y;K|g<o00B2s=%e7B|!#|<-03>3",
  "y;O|-vs000B3ha3e7B|!#|<+03>-3",
  "y;7200,1,+02;0,0,+00;0,0,+00|1puo00Dhd00B1q:00C_:00B11!00B1o000Cyqe7C|!#$%$%$&(&(&$%$%$&(&(&(&$%$%$&(&(&$%$%$&(&(&(&$%$%$&(&(&$%$%$%$&(&()|<+00>0<+02>-2,M3.5.0/1,M10.5.0/3",
  "y;P;J|-tj!00B1r_h00A1;j00B1a[v00Cyiwe7C|!#$%&|<+05>-5",
  "10794,0,LMT;O|-:)2~@B3yo6e1B|!#|<+03>-3",
  "18468,0,LMT;J;f;M;M;f;U;J;f|-1=c57:Be]o7:D23$/00C1db00D1c;00C1dd00C1c<00E1c:00F1c:00E1f!00E1c:00G1c;00H+:00Er~00F1f!00F1o000E11!00F1q:00E_:00F/4m00Bx:^e7B|!#$%&%&%()*+*+*+*+*+*,./01+*+*+*+23434345656543434578|<+05>-5",
  "8624,0,LMT;E;D;D;E;O|-1y_2n+C1*i:n+B./00C1o;00B11b00C1pd00B1dz00C1cp00B1op00Bf<100B1db00C1e100B1c/00C1c;00B1fz00C10n00C1ld00B14n00C1h#00B15b00C1ip00B19~00C17b00C14o00D1lc00B17c00D1io00B1@o00Ey000D1fc00E1dc00D1co00E1c:00B1c:00D1o000D11!00B1lc00D17c00B1q:00D_:00B4b~00C%d00B/!00B1$000F#4?e7F|!#$%&%&()*&+&,./01012(3456789101:4;<=>=>=?@ABCBDEDFGHIEDFGFGJKJKJGFGLMJKJGFGFGFGFGJKJNOP|<+03>-3",
  "42596,0,LMT;h;50400,1,+14;46800,0,+13;46800,1,+13;h;46800,1,+13;k;S;h|-1=cb;]Be]n;]D23$/00C1db00D1c;00E1dc00B1db00B1dd00E1c<00F1c:00G1c:00F1f!00F1c:00H1c;00I+:00Fr~00G1f!00G1o000F11!00G1q:00F_:00G11!00H1q;00I_:00F15ice7F|!#$%&(&)*+,.,.,.,.,.,/0123.,.,.,.45656567878765656787878765659:;<|<+12>-12",
  "12064,0,LMT;F;J;M;U;J;U;R;F;J|-1=c3l4Be]nl4C24=~00D1c/00E1dc00C1c;00E1db00C1dd00E1c<00F1c:00G1c:00F1f!00F1c:00H1c;00I+:00Fr~00G1c:00I1c;00H1f!00H1o000I11!00H1q:00I_:00H1q:00F1k?he7F|!#$%&()*+,.,.,.,.,.,/0123.,.,45467878789:9:987878;<|<+05>-5",
  "13720,0,LMT;F;J;U;M;J;U;R;F;U;J|-1=c3:&Be]n:&C23$/00D1db00E1c:00D1dc00C1c;00D1db00C1dd00D1c<00F1c:00G1c:00F1f!00F1c:00H1c;00I+:00Fr~00G1f!00G1o000F11!00G1q:00F_:00G1k?ie7F|!#$%&()*+,./././././.01234/./././567676789898767678:|<+05>-5",
  "14012,0,LMT;F;U;J;J;U;R;F;J|-1=c3?wBe]n?wD23$/00C1db00D1c;00C1dd00C1c<00E1c:00F1c:00E1f!00E1c:00G1c;00H+:00D1>0?e7D|!#$%&%&%()*+*+*+*+*+*,./01|<+05>-5",
  "12464,0,LMT;O;J;M;U;J;U;R;F;J|-1=c3r+Be]or+C24=_00D1c/00E1dc00C1c;00E1db00C1dd00E1c<00F1c:00G1c:00F1f!00F1c:00H1c;00I+:00Fr~00G1f!00G1o000F11!00G11!00H1q;00I_:00H1q:00I1o000I1q:00F1k?he7F|!#$%&()*+,.,.,.,.,.,/0123.,.,.,.456565789:9:7;7;7<=|<+05>-5",
  "10660,0,LMT;10656,0,BMT;O;r;O;r|-3e/$^&B18ao04C2!$n^!D11b00C1cp00D1dz00C1dd00D1db00C1c;00D1cp00E1c:00F1c:00E1f!00E1de00F1dc00E1dc00F1d/fe7E|!#$%&()*+,././././.01232.2.2.232.2.2.232.2.2.232.2.2.24|<+03>-3",
  "12140,0,LMT;12600,0,+0330;F;O|-19g=mkB5^~>kC19bzu0D2%;je7D|!#$%|<+03>-3",
  "11964,0,LMT;O;R;F;F;R;r;O;R;F|-1=c3joB1j]ojoD_$/00C1db00D1c;00C1dd00C1c<00E1c:00F1c:00E1f!00E1c:00G1c;00H8wq00I1o000J11z00C1o000D11!00C1q:00D_:00C@8=e7D|!#$%&%&%()*+*+*+*+*+*,./.+01234345656543434565656543434565654343437|<+04>-4",
  "24124,0,LMT;24124,0,BMT;P|-3%8@)4B1$0000C4.<^]bC|!#$|<+07>-7",
  "20100,0,LMT;M;s;P;P;s;f;M;f;P|-21@5z0Bp$nz0D23$/00C1db00D1c;00C1dd00C1c<00E1c:00F1c:00E1f!00E1c:00G1c;00H+:00Er~00Fp900I/&00H1f!00G1o000H11!00G1q:00H_:00G_:00E8*z00H3rd00E?7je7E|!#$%&%&%()*+*+*+*+*+*,./01+*+*+*234565656787876565678787876565679:;<|<+07>-7",
  "8520,0,LMT;E;D|-3%8<m0C1#_om0B1on00C14100B1db00C19#00B1in00C1ip00B_/00C1l>p00B11b00C1o;00B1pd00Bq6;00B&n00C1op00Bd!100B17b00C1i;00B1v#00B@/00C1mp00B13z00C1jd00B12n00C1a100B1c/00C1c;00B1f#00B1q/00C_;00B11#00B1n~00C|!#$%&()*+,././.0./.12/././.0./.3.45656565789:6565;<=>?>?>@>?>?>?ABABACDCDCABABABACDCDCABABACDCDCDCABABACDCDCABABACDCDCDCABABACDCDCABABABACDCD|EET-2EEST,M3.5.0/0,M10.5.0/0",
  "17904,0,LMT;J;f;M;M;f;U;U|-1=c4_oBe]n_oD23$/00C1db00D1c;00C1dd00C1c<00E1c:00F1c:00E1f!00E1c:00G11c00B1t~00G17b00B1ip00G19~00B1c=u0H1n~00B11#00H1q/00B_;00H[8u0D1i~le7D|!#$%&%&%()*+*+*+*+*+*,./0121212123456567878765656789:|<+06>-6",
  "27580,0,LMT;27000,0,+0730;W|-1.+[%&Bg%c9&C4f/.+7C|!#$|<+08>-8",
  "27232,0,LMT;W;36000,1,+10;N;N;36000,1,+10;32400,1,+09;W;c;36000,1,+10;N|-21>7x>Bp!nx>D23$/00C1db00D1c;00C1dd00C1c<00E1c:00F1c:00E1f!00E1c:00G1c;00H+:00Er~00F1f!00F1o000E11!00F1q:00E_:00F_:00I8*z00H3re00D?7le7D|!#$%&%&%()*+*+*+*+*+*,./01+*+*+*+234343456565434345656565434345789:|<+09>-9",
  "19164,0,LMT;19172,0,MMT;19800,0,+0530;U;23400,1,+0630;23400,0,+0630;M;19800,0,+0530|-3%8?joB13in~>C1r(b;wD1zzu0E7!pu0C23dz00F11zu0Gn3cu0C1hk]+7C|!#$%&()*+|<+0530>-5:30",
  "8712,0,LMT;E;D;O|-21,epcC*epcB17b00C1ip00B19~00C1x?#00B11~00C1o;00B10/00C1p#00B11b00C1mp00B13~00C1pd00B;b00C1!;00Bbcp00B1gp00B3ld00B1x~00C^d00B1#z00C@p00B1v~00C10p00B1dz00C1c;00B1c/00C1db00B1db00C1g100B1an00C1ap00B1fd00B1dd00B1cp00B1c100B1d~00C19z00C1f#00B1q/00C11#00B1on00C_p00B1n~00C_;00B1q/00D#4@e7D|!#$%$%$%&()*+,.*+/0*.1.*.*.*.1.*.*.*.1.*2324&5&6789:;<=>?@ABCDAEA>AFAG=HI>AFA>A>A>AFA>A>JKLMNOLMPMPMPMPMLQLQLMPMPMPMLQLQRS|<+03>-3",
  "21700,0,LMT;21200,0,HMT;23400,0,+0630;19800,0,+0530;M;f|-3e/)1&B26008kC1unnkD*#00Cm6n00E2kxbu0F1i000E18iae7E|!#$%&()*|<+06>-6",
  "30140,0,LMT;W;N;W;N|-2le800B1dn~00C1nf!00D~ld00C1u[ne7C|!#$%&|<+09>-9",
  "13272,0,LMT;F|-21,f(cB4/ri[jB|!#|<+04>-4",
  "16512,0,LMT;J;f;M;M;f;U;J|-1=c4zcBe]nzcD23$/00C1db00D1c;00C1dd00C1c<00E1c:00F1c:00E1f!00E1c:00G14;00H1>?)e7H|!#$%&%&%()*+*+*+*+*+*,./0|<+05>-5",
  "8148,0,LMT;E;D;D;E;O;D|-1^c2f:C2a3cf:B1c/00C1qp00B~z00C19#00B19~00C1f#00B1db00C1cp00B1c;00B1fz00C1o300D11!00E1q:00D_:00E1o000D15]00F2.s00D|!#$%&()*+,$*).$.$.$./.$.$.$.$.$./.$.$.$.$.$*$.$.012323214141232323214141232321414141563214141232321414141232321414123232321414|EET-2EEST,M3.5.0/3,M10.5.0/4",
  "8272,0,LMT;E;D;D;E;10800,1,IDT;7200,0,IST;10800,1,IDT;7200,0,IST;D|-2:#$h>D1!zeh>B::00Ci:00B4,!00C10o00B1p!00C10:00B16o00B1j!00Cp#a00E^z00D1o;00E11b00D1o<00E10;00D1pz00E1pb00E11d00D1o/00Ed_00Ghf#00F%b00G1f#00F?b00Gb~#00Hg:00I8>000H+:00I1wo00F[~00G1*#00F+/00G1s100F10n00G1o100F_/00G1zd00F<n00G1ld00F11z00G14n00G1nd00F12n00G~z00G1q100F:100D$000E17c00J1io00E1o000E1c/00D1f#00E1c;00E17c00D18;00D1bz00E19z00D1gp00E16100D1i/00E11z00D1o100E14o00D1l!10E@.~0D1xd10E:.~0D1!;00E1a000D1f!00E1n~00D12100E1n!00D1q/00D_;00E11c00E1on00D11#00E1o000D11!00E1qo00D~!00E1qp00D1a100E1fz00D17d00E1in00D1lb00D14p00E19~00D14n00Dj#00E2/00D_/00Dg;00E8n00D[~00Dbb00D<n00Dd~00D/z00Dmn00D+/00Dpb00D%b00Dr~00Dxz00D!n00Dg/00D5z00D1ip00E17b00D?b00D(~00Du/00Djz00D|!#$%&()*)+,+,./012343535353435356789:;<=>?@ABCDEFGHIJKLGMGMNONPQORSTUTUTVWXWYWYWYWYZU[]^_abcdefghijklWYmnonpqpqprstuvwxyYWz~ÀÁtmtpqpqptmtmtpqpqpqptÂÃÁÀWYÄXÅÆÇtÈÉÊtËÉÌtÍÆÎtÏÉÐqÑÉÒqÓÆÔtÕÉÕtÔÆÖtÒÉÑqÐÉÏq×ÆÍtÌÉËtØÆÈtÇÆcÙÄYWÀÁÃÂtmtpqpqpqptmtmtpqpqmÃÁÀ~zÄXÚÉÇqÅÉØqÈÆÊtÛÉÎtÏÆ×tÑÆÐqÜÉÔqÖÆÝtÝÉÖtÔÉÓtÐÆÜtÞÉÍqÎÆÛqÌÆËtØÉc|EET-2EEST,M3.4.4/50,M10.4.4/50",
  "8423,0,LMT;E;D;D;E;10800,1,IDT;7200,0,IST;10800,1,IDT;7200,0,IST;D|-2:#$knD1!zeknB::00Ci:00B4,!00C10o00B1p!00C10:00B16o00B1j!00Cp#a00E^z00D1o;00E11b00D1o<00E10;00D1pz00E1pb00E11d00D1o/00Ed_00Ghf#00F%b00G1f#00F?b00Gb~#00Hg:00I8>000H+:00I1wo00F[~00G1*#00F+/00G1s100F10n00G1o100F_/00G1zd00F<n00G1ld00F11z00G14n00G1nd00F12n00G~z00G1q100F:100D$000E17c00J1io00E1o000E1c/00D1f#00E1c;00E17c00D18;00D1bz00E19z00D1gp00E16100D1i/00E12/00D1m;00E14o00D1lc00E[b00D1xd10E:.~0Db#00Ecn00D1a000D1f!00E1n~00D12100E1n!00D1q/00D_;00E11c00E1on00D11#00E1o000D11!00E1qo00D~!00E1qp00D1a100E1fz00D17d00E1in00D1lb00D14p00E19~00D14n00Dj#00E2/00D_/00Dg;00E8n00D[~00Dbb00D<n00Dd~00D/z00Dmn00D+/00Dpb00D%b00Dr~00Dxz00D!n00Dg/00D5z00D11z00D1ip00E17b00D?b00D(~00Du/00Djz00D|!#$%&()*)+,+,./012343535353435356789:;<=>?@ABCDEFGHIJKLGMGMNONPQORSTUTUTVWXWYWYWYWYZU[]^_abcdefghijkYlmWYnopoqrqrqstuvwxyzYW~ÀÁÂunuqrqrqununuqrqrqrquÃÄÂÁWYÅXÆÇÈuÉÊËuÌÊÍuÎÇÏuÐÊÑrÒÊÓrÔÇÕuÖÊÖuÕÇ×uÓÊÒrÑÊÐrØÇÎuÍÊÌuÙÇÉuÈÇÚÛÅYWÁÂÄÃunuqrqrqrqununuqrqrnÄÂÁÀ~ÅXÜÊÈrÆÊÙrÉÇËuÝÊÏuÐÇØuÒÇÑrÞÊÕr×ÇßußÊ×uÕÊÔuÑÇÞuàÊÎrÏÇÝrÍÇÌuÙÊÚ|EET-2EEST,M3.4.4/50,M10.4.4/50",
  "25590,0,LMT;25590,0,PLMT;P;W;N;P|-2y$76uBb.000C1h7b6uD5lz00E18o00C3<q00Dk5c00Ca^~00D#!:00C2wqze7C|!#$%&()*+,|<+07>-7",
  "27402,0,LMT;28800,0,HKT;32400,1,HKST;30600,1,HKWT;32400,0,JST;28800,0,HKT;32400,1,HKST;28800,0,HKT|-2$(*00B1ta<00C*c00Dx]u0E9t#u0H11z00C1t%u0F?c00G1wo00F11!00G1c:00F11!00C1o000F14o00C1n~00H]100C1tz00H1wn00H?d00C17d00C1c/00H1c;00C1fz00Hs100C1^z00H6fd00C14n00H|!#$%&()*+,./0/0/010/2343565343434356565343478989:989898989:98;<9898=>|HKT-8",
  "21996,0,LMT;M;s;P|-2!=)6!B2]ko6!Dc.n00C1db00D1dd00C1c/00D1c;00C1fz00D1f#00C6h%00C11z00Dk&p00C1c,00D1c=00C=@~e7D|!#$%&()()()()()()*)()()()()(+()()(,.)()()()()*/0102|<+07>-7",
  "25025,0,LMT;25025,0,IMT;P;32400,1,+09;W;W;32400,1,+09;s;P;N;32400,1,+09;W|-3%8@^5B1#xc00Cpj~^5E23$/00D1db00E1c;00D1dd00D1c<00F1c:00G1c:00F1f!00F1c:00H1c;00I+:00Fr~00G1f!00G1o000F11!00G1q:00F_:00G_:00J8*z00F]yye7F|!#$%&(&(&)*+,+,+,+,+,+./012,+,+,+,34545456767654545676767654545689:|<+08>-8",
  "25632,0,LMT;25632,0,BMT;26400,0,+0720;27000,0,+0730;N;W;25200,0,WIB|-49j*7cB2hi//cClu:00Dm=z<0E8v_u0D6kpu0F4=~u0Dxhcu0G|!#$%&()*|WIB-7",
  "33768,0,LMT;N;34200,0,+0930;32400,0,WIT|-1uu9m:Bs::m:C/4nu0D|!#$|WIT-9",
  "8454,0,LMT;8440,0,JMT;10800,1,IDT;7200,0,IST;14400,1,IDDT;10800,1,IDT;7200,0,IST;10800,1,IDT;7200,0,IST|-3%8<k@B1wv!0eG@y<k&C::00Di:00C4,!00D10o00C1p!00D10:00C16o00C1j!00D3/!00E&o00Coo00D1co00C1d!00D10:00D1jc00C1t!00D14o00C1c:00D1a000C11!00D1;c00C!o00D1.o00C/!00D1o000C_:00D&>.00F%b00G1f#00F?b00Gb~#00Hg:00I8>000H+:00I1wo00F[~00G1*#00F+/00G1s100F10n00G1o100F_/00G1zd00F<n00G1ld00F11z00G14n00G1nd00F12n00G~z00G1q100F1h#00F1d~00G1ep00F1a/00G1e;00F17~00G1nf00F1t#00F19_00G1e100F17b00G1g/00G18;00F1fz00G1gq00F1gn00G19d00F1dz00G1c100F1kp00F1o/00G10;00F1rz00G_100F|!#$%&()*+*,.,./0123,456789:;<;<=>?@ABCDEFGHIJKLMNOPQRSTOUOUVWVXYWZ[]^_abTcdef]ghi_fjklmnaZklmnaomn^_pqpqpqrsrsrqpqpqrsrsrqpqpqpqrsrsrqpqpqrsrsrsrqpqp|IST-2IDT,M3.4.4/26,M10.5.0",
  "16608,0,LMT;F;16200,0,+0430|-3e/&!:B2d[c!:C3.yve7C|!#$|<+0430>-4:30",
  "38076,0,LMT;S;46800,1,+13;h;h;46800,1,+13;k;S;h|-1@/.y!Biv~y!D23$/00C1db00D1c;00C1dd00C1c<00E1c:00F1c:00E1f!00E1c:00G1c;00H+:00Er~00F1f!00F1o000E11!00F1q:00E_:00F11!00G1q;00H_:00E15ice7E|!#$%&%&%()*+*+*+*+*+*,./01+*+*+*+2343434565654343456565654343789:|<+12>-12",
  "16092,0,LMT;19800,0,+0530;23400,1,+0630;J;21600,1,PKST;18000,0,PKT|-2xosscB1q<._cC7z~00Beup00D/q:u0F1fy000E1c/00Fd.100E11b00F16100E1j~00F|!#$%&()*+,.|PKT-5",
  "20476,0,LMT;19800,0,+0530;20700,0,+0545|-21,h(gB2&):bgC26+w+7C|!#$|<+0545>-5:45",
  "32533,0,LMT;W;36000,1,+10;N;N;36000,1,+10;32400,1,+09;W;39600,1,+11;c;c;S;N|-21>92dBp!p2dD23$/00C1db00D1c;00C1dd00C1c<00E1c:00F1c:00E1f!00E1c:00G1c;00H+:00Er~00F1f!00F1o000E11!00F1q:00E_:00Fq.00Ky;00I1q:00J_:00I11!00I1o000J_:00L17^00J7z%00E]yze7E|!#$%&%&%()*+*+*+*+*+*,./01+*+*+*+2343434565654343789:9:9:9;<;<;9=>?@|<+09>-9",
  "21208,0,LMT;21200,0,HMT;19270,0,MMT;19800,0,IST;23400,1,+0630|-4(g5?sB#.o08C1r%cwaD1r2/=aE1un00D*#00E7z~00D|!#$%&()|IST-5:30",
  "22286,0,LMT;M;s;P;P;s;f;M;W;s;P|-21*ibqBpr!bqD23$/00C1db00D1c;00C1dd00C1c<00E1c:00F1c:00E1f!00E1c:00G1c;00H+:00Er~00F1f!00F1o000E11!00F1q:00E_:00F_:00I8*z00E]yxe7E|!#$%&%&%()*+*+*+*+*+*,./01+*+*+*+234343456565434345656565434345789|<+07>-7",
  "24406,0,LMT;24925,0,SMT;P;26400,1,+0720;26400,0,+0720;27000,0,+0730;N;W|-2:0@..Ba+/=lC17an[pD7h~&0Ed:000F17b<0G8(yu0F1so100H2gs~e7H|!#$%&()*+|<+08>-8",
  "26480,0,LMT;27000,0,+0730;30000,1,+0820;W;N;W|-1.+[lkBg%b=kD6ynu0C!n&0D1<0k0C1;!k0Cp!k0E8(z00D3+?0e7D|!#$%&%(%(%(%&%(%)*+|<+08>-8",
  "11516,0,LMT;O|-:)3b]B3yo6q3B|!#|<+03>-3",
  "27250,0,LMT;28800,0,CST;36000,1,+10;N;32400,1,CDT;28800,0,CST;32400,1,CDT|-2$(*yaB1uq.yaD=~00C1kn00D15#00C11b00D4>q00B1o:00E11c00F1ko00E1u000F11!00E1c:00F11c00E1o000F1oo00F14000E]000E1t!00F1wo00F?c00E1wru0B]100G1tz00B1wn00B?d00G17d00G1c.00B1c<00G1fz00B1c;00G1c/00Bs100G1^z00B6fd00G14n00B|!#$%&()*+,./012/2/342/2565789:;:;:;:<=<=<:;:;>?@?@ABCBCBCBCBABCDEBCBCFG|CST-8",
  "36192,0,LMT;c;k;S;S;k;39600,1,+11;c;h;k;S|-1=ca3cBe]o3cD23$/00C1db00D1c;00C1dd00C1c<00E1c:00F1c:00E1f!00E1c:00G1c;00H+:00Er~00F1f!00F1o000E11!00F1q:00E_:00F_:00I8*z00H3$q00E>]be7E|!#$%&%&%()*+*+*+*+*+*,./01+*+*+*+234343456565434345656565434345789:|<+11>-11",
  "28656,0,LMT;28656,0,MMT;W;N;28800,0,WITA|-21,j^!Bvfc00Cmy/^!D8:/00E|!#$%|WITA-8",
  "-57368,0,LMT;29032,0,LMT;32400,1,PDT;28800,0,PST;28800,0,PST;32400,0,JST;28800,0,PST|-54m83>B2d8!3>E1ur:00Cun00Db_100Cnb00F7qo00C1::00Dkl#00Clz00D[w;00C1bb00Du;#00Crz00D|!#$%&()*+,./01|PST-8",
  "14064,0,LMT;F|-21,f@oB4/rj8vB|!#|<+04>-4",
  "8008,0,LMT;E;D;D;E|-1^c2dsC2a3cdsB1c/00C1qp00B~z00C19#00B19~00C1f#00B1db00C1cp00B1c;00B1fz00C1o300D11!00E1q:00D_:00E1o000D|!#$%&()*+,$*).$.$.$./.$.$.$.$.$./.$.$.$.$.$*$.$.0123232141412323232141412323214141412323214141232321414141232321414123232321414|EET-2EEST,M3.5.0/3,M10.5.0/4",
  "20928,0,LMT;M;s;P;P;s;f;M;P|-1=ct::Be]/::D23$/00C1db00D1c;00C1dd00C1c<00E1c:00F1c:00E1f!00E1c:00G1c;00H+:00Er~00F1f!00F1o000E11!00F1q:00E_:00F11!00G1q;00H_:00E15i7e7E|!#$%&%&%()*+*+*+*+*+*,./01+*+*+*+2343434565654343456565654343789:|<+07>-7",
  "19900,0,LMT;M;s;P;P;s;f;M;f;P|-21>nv&Bp!(v&D23$/00C1db00D1c;00C1dd00C1c<00E1c:00F1c:00E1f!00E1c:00G1c;00H+:00Er~00Fml00I<s00H1c:00H1f!00G1o000H11!00G1q:00H_:00G_:00E8*z00H4e;00E>j*e7E|!#$%&%&%()*+*+*+*+*+*,./01+*23.4.4567676789898767678989898767678:;<=|<+07>-7",
  "17610,0,LMT;J;f;M;M;f;U;J;P;f;M|-224s?uBp:/?uD23$/00C1db00D1c;00C1dd00C1c<00E1c:00F1c:00E1f!00E1c:00G1c;00H+:00Er~00F1f!00F1o000E11!00F1q:00E_:00F_:00I8*z00E]ywe7E|!#$%&%&%()*+*+*+*+*+*,./01+*+*+*+234343456565434345656565434345789|<+06>-6",
  "12324,0,LMT;O;J;U;M;J;U;R;F;J|-1=c3poBe]opoC23$.00D1db00E1c:00D1dc00C1c;00D1db00C1dd00D1c<00F1c:00G1c:00F1c:00H1c;00I1f!00I1c:00I+:00Fr~00H1f!00H1o000I11!00H1q:00I_:00H1q:00F1k?he7F|!#$%&()*+,././././01020345103030367878789:9:987878;<|<+05>-5",
  "25180,0,LMT;25590,0,PLMT;P;W;N;P|-2y$6~&Bb,~?aC1h7b6uD5lz00E18o00C3+^0e7C|!#$%&(|<+07>-7",
  "26240,0,LMT;26240,0,PMT;27000,0,+0730;N;W;28800,0,WITA;25200,0,WIB|-2ua7hkB~&000Cmun/kD8?au0C6kpu0E4=~u0Cxhcu0F_qnu0G|!#$%&()*|WIB-7",
  "30180,0,LMT;30600,0,KST;32400,0,JST;32400,0,KST|-2um8n0B97~?0C1l[zu0D2<nc00B6#!00D|!#$%&|KST-9",
  "12368,0,LMT;F;O|-21,fq8B27#~q8C2%;je7C|!#$|<+03>-3",
  "15268,0,LMT;F;J;U;M;J;U;R;F;M;U;J|-1=c4esBe]oesC23$/00D1db00E1c:00D1dc00C1c;00D1db00C1dd00D1c<00F1c:00G1c:00F1f!00F1c:00H1c;00I+:00Fr~00G1f!00G1o000F11!00G1q:00F_:00G1q:00J/4l00Cx:^e7C|!#$%&()*+,./././././.01234/./././56767678989876767:;<|<+05>-5",
  "15712,0,LMT;F;J;U;M;J;U;R;M;U;J|-1=c4l>Be]ol>C23$/00D1db00E1c:00D1dc00C1c;00D1db00C1dd00D1c<00F1c:00G1c:00F1f!00F1c:00H1c;00F+/00Ir~00G1f!00G1o000F11!00G1q:00F_:00G1q:00Iypx00C.r,e7C|!#$%&()*+,./././././.012342./././56767678989876767:;<|<+05>-5",
  "11212,0,LMT;O|-[v%6>B3(d)k~B|!#|<+03>-3",
  "34248,0,LMT;N;k;S;S;k;39600,1,+11;c;S|-2!)^u:B1#o:u:D1q(a00C1db00D1c;00C1dd00C1c<00E1c:00F1c:00E1f!00E1c:00G1c;00H+:00Er~00F1f!00F1o000E11!00G1o100H1o000H1q:00H_:00G_:00E8*z00H3rd00E?7ne7E|!#$%&%&%()*+*+*+*+*+*,./01+*+*+*+2345464787874646478787874646479:;<|<+11>-11",
  "16073,0,LMT;F;J;U;M;J;U|-1=c4r?Be]or?C23$/00D1db00E1c:00D1dc00C1c;00D1db00C1dd00D1c<00F1c:00G1c:00F1f!00F1>,)e7F|!#$%&()*+,./././././.0./1|<+05>-5",
  "30472,0,LMT;30600,0,KST;32400,0,JST;36000,1,KDT;32400,0,KST;34200,1,KDT;36000,1,KDT|-2um8r>B97~^>C1m1zu0E6$:00D(z00E1k;00D14n00E14/00E1zd00D<n00E69#00B2+0u0F</00B1(#00F?b00B1q;00F[~00B1t#00F2ap00E12(#u0D11!00E1o000D|!#$%&()(*+,./0123454545467898|KST-9",
  "29143,0,LMT;32400,1,CDT;28800,0,CST|-2:0]5*C+uo5*B18n00C<j#00B?z00C11d00B1w/00C!100B8*~00C1)100B[z00C1ip00B1j~00C1c;00B11b00C1o;00Ba/00C1t]300B?b00C1o100B11z00C1q;00B_/00C|!#$%&()*+,./0123456789:987878|CST-8",
  "24925,0,LMT;24925,0,SMT;P;26400,1,+0720;26400,0,+0720;27000,0,+0730;N;W|-2:0@[pBa+:00C17an[pD7h~&0Ed:000F17b<0G8(yu0F1so100H2gs~e7H|!#$%&()*+|<+08>-8",
  "36892,0,LMT;c;k;S;S;k;39600,1,+11;c;h;k;S|-1=cae>Be]oe>D23$/00C1db00D1c;00C1dd00C1c<00E1c:00F1c:00E1f!00E1c:00G1c;00H+:00Er~00F1f!00F1o000E11!00F1q:00E_:00F_:00I8*z00E]y#e7E|!#$%&%&%()*+*+*+*+*+*,./01+*+*+*+234343456565434345656565434345789|<+11>-11",
  "29160,0,LMT;28800,0,CST;32400,0,JST;32400,1,CDT;28800,0,CST|-30bk60B1(%c60Cjo:00B1yo00D[z00B1ip00D1j~00B1c;00D11b00B1o;00D10;00D1#~00B10p00D1pz00B1db00B1dd00D1##00D:/00B1#d00Duq100D97#00D!/00B|!#$%&()*+,+,+,+./01010232*2*2*2456572*289|CST-8",
  "16631,0,LMT;J;f;M;M;f;U;J|-1=c4#bBe]n#bD23$/00C1db00D1c;00C1dd00C1c<00E1c:00F1c:00E1f!00E1c:00G1c;00H1>,)e7H|!#$%&%&%()*+*+*+*+*+*,./0|<+05>-5",
  "10751,0,LMT;10751,0,TBMT;O;R;F;F;R;r;O;r;F|-3%8<~bB1/]:00C1j]n~bE_$/00D1db00E1c;00D1dd00D1c<00F1c:00G1c:00F1f!00F1c:00H1c;00I1c.00J1c/00C1c;00J1c/00E1c:00D1f#00D2pz00D1o000E11#00D1n~00E1q/00E_;00D!n00J<s00I_:00E1j@se7E|!#$%&(&(&)*+,+,+,+,+,+./0123234546789:9;<;<;9:9:9=>?@|<+04>-4",
  "12344,0,LMT;12344,0,TMT;16200,1,+0430;12600,0,+0330;R;F;16200,1,+0430;12600,0,+0330|-2bt%p+B/lc00D1(*a[+C1pc00F120u0E?c00F%c00D1i:u0C,~00D1d#00C1en00Dp;#00C]/00D1c;00C1dz00D1cp00C64p00C#jj+7D|!#$%&()*+,./012323232321232323212323232124212323232123232321232323212325|<+0330>-3:30",
  "21516,0,LMT;19800,0,+0530;M|-@u5_!B1#):s!C22tk+7C|!#$|<+06>-6",
  "33539,0,LMT;36000,1,JDT;32400,0,JST;32400,0,JST|-3j&900D2q@o00B?c00C1lc00B14o00C1zc00B<o00C|!#$%&()()|JST-9",
  "20391,0,LMT;M;s;P;P;s;f;M;f;P|-21;h%=Bpxz%=D23$/00C1db00D1c;00C1dd00C1c<00E1c:00F1c:00E1f!00E1c:00G1c;00H+:00Er~00F1f!00F1o000E11!00F1q:00E_:00Fco00I1b#00H11!00G1o000H1q:00H_:00G_:00E8*z00H3>p00E>)7e7E|!#$%&%&%()*+*+*+*+*+*,./01+*+*+*+2343434565654789:9;<;<;<;9:9:9;=>?@|<+07>-7",
  "25652,0,LMT;P;32400,1,+09;W|-2!=*7wB2]ko7wDc.n00C1db00D1dd00C1c/00D1c;00C1fz00D1f#00C6h%00C11z00Dk&p00C1c,00D1c=00C=[0e7D|!#$%&()()()()()()*)()()()()(+()()(,.)()()()()*/0102|<+08>-8",
  "21020,0,LMT;M|-1)gt<kB4r_x4rB|!#|<+06>-6",
  "34374,0,LMT;W;N;S;k;S;k;39600,1,+11;c;h;k;c|-21>9w@Bp!pw@C23$/00E1d900D1c;00E1db00D1dd00E1c<00F1c:00G1c:00F1f!00F1c:00H1c;00I+:00Fr~00G1f!00G1o000F11!00G1q:00F_:00G_:00J17^00F7z%00I]y!e7I|!#$%&(&()*+,+,+,+,+,+./012,+,+,+,34545456767654545676767654545689:;|<+10>-10",
  "24624,0,LMT;25590,0,PLMT;P;W;N;P|-2y$6<oBb,~*@C1h7b6uD5lz00E18o00C3<q00Djyn00C3lwbe7C|!#$%&()*|<+07>-7",
  "31651,0,LMT;N;39600,1,+11;c;c;39600,1,+11;36000,1,+10;N;S;39600,1,+11;c|-1@,+/vBit~/vD23$/00C1db00D1c;00C1dd00C1c<00E1c:00F1c:00E1f!00E1c:00G1c;00H+:00Er~00F1f!00F1o000E11!00F1q:00E_:00F_:00I8*z00E]y!e7E|!#$%&%&%()*+*+*+*+*+*,./01+*+*+*+234343456565434345656565434345789|<+10>-10",
  "31138,0,LMT;W;36000,1,+10;N;N;36000,1,+10;32400,1,+09;W;c;36000,1,+10;N|-21>8$_Bp!o$_D23$/00C1db00D1c;00C1dd00C1c<00E1c:00F1c:00E1f!00E1c:00G1c;00H+:00Er~00F1f!00F1o000E11!00F1q:00E_:00F_:00I8*z00E]yze7E|!#$%&%&%()*+*+*+*+*+*,./01+*+*+*+234343456565434345656565434345789|<+09>-9",
  "23087,0,LMT;23087,0,RMT;23400,0,+0630;N;23400,0,+0630|-3%8@o/B1#n!00C@mn@/D7j9u0C3,,:e7C|!#$%&|<+0630>-6:30",
  "14553,0,LMT;13505,0,PMT;F;U;J;J;U;R;F;M;U;J|-2ag42xB7m>hsCq#v,5E23$/00D1db00E1c;00D1dd00D1c<00F1c:00G1c:00F1f!00F1c:00H1c;00I+:00Fr~00G1f!00G1o000F11!00G1q:00F_:00G_:00J8*z00F]yve7F|!#$%&(&(&)*+,+,+,+,+,+./012,+,+,+,34545456767654545676767654545689:|<+05>-5",
  "10680,0,LMT;O;R;F;F;R;r;O;R;F|-1=c2_0B1j]n_0D_$/00C1db00D1c;00C1dd00C1c<00E1c:00F1c:00E1f!00E1c:00G1c;00H1c:00H3(b00F1o000E11!00F1q:00E_:00F13=he7E|!#$%&%&%()*+*+*+*+*+*,./.0.0.0.+1232345454323234545454323234546|<+04>-4",
  "-6160,0,LMT;-6872,0,HMT;-3600,1,-01;x;-3600,1,-01;x;x;0,1,+00;e;0,1,+00;e;b;j;0,1,+00;e|-3tomhkB18aohkGa=~00C@p00D:000C1vb00D@;00C[d00C66000E18o00F3+000E17c00F1f!00E1a000F1io00E1c:00E1c:00F3(c00E1a000E1f!00F1q:00F%c00E1uo00F1c000E1dc00F14000Eg/00H+:00Es100F]000Ed~00H?c00Epd00F<o00E14o00E1c=00E1c:00I#)l00H1c:00H1f!00I1c:00J1c:00K1f!00K!p00M!n00Lwo00J&o00K1f!00J1o000K11!00J1q:00K_:00Jyqe7K|!#$%&()()(*()(+,./01212/./3454672/3467289:;<=>?@ABCDC>EDC>EDF4G43434343734343434373434343434373434343HIHJHJKJHLMLMLMLMLNLMLMOPQRLMLMSTUTUTUVWVWVUTUTUVWVWVWVUTUTUVWVWVUTUTUTUVWVWVUTUTUVWVWVUTUTUTUVWVWVUTUTUVWVWVWVUTUTX|<-01>1<+00>,M3.5.0/0,M10.5.0/1",
  "-15558,0,LMT;-11958,1,BST;-15558,0,BMT;v;T|-3e/v&)C16mo00B1bb00C1i100B11~00Cru300Ethb&)D1=~00E11#00D1tz00E?d00D1zb00E<p00D3+100D/z00E1&;00D(~00E1*#00D1.p00D%b00E93d00D11z00E)!p00D1c/00E1c;00D1fz00E1a100D14p00D1lb00E1n~00E|!#$%&()*+,./0/12345467676489:;<;<=>=<;<;<;<;<=>=<;<;<;?@?A+A+A?@?@?A+A+A?@?@?@?A+A+A?@?@?A+A+A./0/0/./0/0/0/0/0/./0/0/0/0/./0/0/0/0/0/./0/0/0/0/./0/0/0/0/0/|AST4ADT,M3.2.0,M11.1.0",
  "-3696,0,LMT;e;j;b;j;b|-1]ta_oB~=!_oC1l!.00D1a100E1c:00F1c:00E1f!00E1f!00F1o000E11!00F1q:00E_:00F|!#$%&(&(&(&)&(&(&(&(&(&)&(&(&(&(&(*+,+,+,././.,+,+,./././.,+,+,././.,+,+,+,././.,+,+,././.,+,+,+,././.,+,+,./././.,+,+|WET0WEST,M3.5.0/1,M10.5.0",
  "-5644,0,LMT;x;-3600,1,-01;x;e|-2ld_00B1e&o00C7z~00D1djf00E2vkne7E|!#$%&|<-01>1",
  "-1624,0,LMT;j;b;j|-2u@nw]B2_gow]C1c:00D1c:00C1f!00D1f!00C1o000D11!00C1q:00D_:00C|!#$%$%$%&%$%$%$%$%$%&%$%$%$%$%$()*)*)*+,+,+*)*)*+,+,+,+*)*)*+,+,+*)*)*)*+,+,+*)*)*+,+,+*)*)*)*+,+,+*)*)*+,+,+,+*)*)|WET0WEST,M3.5.0/1,M10.5.0",
  "-4056,0,LMT;-4056,0,FMT;0,1,+00;e;0,1,+00;e;e;3600,1,+01;j;b;b;j;b|-3tom>oB18an>oGa=~00C@p00D:000C1vb00D@;00C[d00C66000E18o00F3+000E17c00F1f!00E1a000F1io00E1c:00E1c:00F3(c00E1a000E1f!00F1q:00F%c00E1uo00F1c000E1dc00F14000Eg/00H+:00Es100F]000Ed~00H?c00Epd00F<o00E14o00E1c=00E1c:00I#,900K1a000I1c:00J1f!00I1c;00L1c:00M1c:00L1f!00L1f!00M1o000L11!00M1q:00L_:00M|!#$%&()()(*()(+,./01212/./3454672/3467289:;<=>?@ABCDC>EDC>EDF4G43434343734343434373434343434373434343HIJKHKLKHKMNONONONPNONONONONOQRSRSRSTUTUTSRSRSTUTUTUTSRSRSTUTUTSRSRSRSTUTUTSRSRSTUTUTSRSRSRSTUTUTSRSRSTUTUTUTSRSR|WET0WEST,M3.5.0/1,M10.5.0",
  "-5280,0,LMT;0,1,+00;e;e;0,1,+00;Y|-2u_mw0Cmfaw0B1#d00C:/00B1/#00C$n00B3f~00B$100C*r~00B1c<00C/#00B1&/00D/!00E1$000D<o00E1wo00D?c00E1zc00D14o00E1lc00D1o000D11!00E14o00F|!#$%&(&)*+,./012343434525676768976867676767686767676767686767676768:|GMT0",
  "-8768,0,LMT;x|-3e/xx>B60t!/~B|!#|<-02>2",
  "-1368,0,LMT;-1368,0,JMT;Y|-3e/z#cB2sv!00C|!#|GMT0",
  "-13884,0,LMT;-13884,0,SMT;Q;L;V;K;Q|-3e/w8!B@2000D12b!8!C19~00D1f#00C1ip00C$n00D1$c100F_/00E1q/00F]100E1tz00F]100C1q:00D_;00C1q/00D1tz00D1q;00D1wn00D?d00C]100F16%9e7F|!#$%&%(%&%&%&)*+,./0123232324042323232324232323232506760404040406040489|<-03>3",
  "33260,0,LMT;32400,0,ACST;37800,1,ACDT;34200,0,ACST;34200,0,ACST|-32o^ekBak0ekE*1#u0Cxc00D10jc00Cy:00D1c:00C1c:00D1f!00C1a000D17c000C/!00D1$000C<o00D1zc00C?c00D]000D1q:00C_:00D1t!00C11!00D1o000C14o00D1f!00D|!#$%&()*+,./01212123212121212123212121245676747471265324765898989856565898985658965:)*)*)*)*+*)*)*)*)*)*+*)*)*)*)*);)*)*)*)*)*+*)*)*)*)*)*+*)*)|ACST-9:30ACDT,M10.1.0,M4.1.0/3",
  "36728,0,LMT;39600,1,AEDT;n;n|-32#mc8D?y2c8Bxc00C10jc00By:00C1c:00B1c:00C1f!00B1a000C17c000B/!00C*1!00B<o00C1zc00B|!#$%&()*+,./01010|AEST-10",
  "33948,0,LMT;n;32400,0,ACST;37800,1,ACDT;34200,0,ACST;34200,0,ACST|-32o^p:B3/zp:C6wp00F*1#u0Dxc00E10jc00Dy:00E1c:00D1c:00E1f!00D1a000E17c000D/!00E1$000D<o00E1zc00D?c00E14o00E1o000D]000E1q:00D_:00E1t!00D11!00E1f!00E|!#$%&()*+,./0123232343232323232356232323789:9:7:232323432323;6;6;6;89898;6;6;898;6985*+*+*+*+,+*+*+*+*+*+,+*+*+*+*+*<*+*+*+*+*+,+*+*+*+*+*+,+*+*|ACST-9:30ACDT,M10.1.0,M4.1.0/3",
  "31400,0,LMT;32400,0,ACST;37800,1,ACDT;34200,0,ACST;34200,0,ACST|-32o]*kBaj~*kE*1#u0Cxc00D10jc00Cy:00D1c:00C1c:00D1f!00C1a000D|!#$%&()*+,|ACST-9:30",
  "30928,0,LMT;35100,1,+0945;31500,0,+0845;31500,0,+0845|-30n+zsD=kp<sBxc00C10jc00By:00C1c:00B1c:00C1g@o00B<o00Cl5!00Bi,!00B)000Cz]000B+:00C1q:00B11!00C1o000B1a9l~7C|!#$%&()*+,+./0123435|<+0845>-8:45",
  "35356,0,LMT;39600,1,AEDT;n;n|-3109;gD=k1;gB1a000C1q:00B<o00C1zc00B[!o00By:00C1c:00B1c:00C1f!00B^f!00B1o000B?c00C1wo00B]000C/!00C1$000B11!00C_:00C1t!00B11!00B1o000C1io00B1f!00C|!#$%&(&)*+,.$/,012123245&(&(&(1(&(&(&(&(&(6%7%&(&(&2787838386.$.$.$.$.,.$.$.$.$9:;$.$.$.$.,+$;,+,+,+,+,.,+,+,+,+,+,.,+,+,+,+,+<+,+,+,+,+,.,+,+,+,+,+,.,+,+|AEST-10AEDT,M10.1.0,M4.1.0/3",
  "35756,0,LMT;39600,1,AEDT;n;n|-32#l[]D?y1[]Bxc00C10jc00By:00C1c:00B1c:00C1f!00B1a000C17c000B/!00C*1!00B<o00C1zc00B?c00C|!#$%&()*+,./010101210|AEST-10",
  "38180,0,LMT;n;41400,1,+1130;37800,0,+1030;39600,1,+11|-32o_!kB3tz!!kD1zdu0C?b00D1zd00C<n00D1zd00E[~u0D1q:u0E_/u0D1t!u0E<nu0D1zcu0E?bu0D11zu0D1o0u0E11!u0E1n~u0D14nu0D1c:u0E1c/u0D1f!u0E1fzu0D)~+7E|!#$%&(&(&()*+,.,.*./0/0/010/0/02323232+,45+23232+,+23,+67878787898787878787898787878787:787878787898787878787898787;|<+1030>-10:30<+11>-11,M10.1.0,M4.1.0",
  "34792,0,LMT;39600,1,AEDT;n;n|-32o^%>D?l#%>Bxc00C10jc00By:00C1c:00B1c:00C1f!00B1a000C17c000B/!00C1$000B<o00C1zc00B?c00C]000C1q:00B_:00C11!00C1t!00B1o000B11!00B1o000C14o00C1f!00C|!#$%&()*+,./01010121010101010121010101345467373701012101546868686459:4686864546854;()()()()*)()()()()()*)()()()()(<()()()()()*)()()()()()*)()(|AEST-10AEDT,M10.1.0,M4.1.0/3",
  "27804,0,LMT;32400,1,AWDT;28800,0,AWST;28800,0,AWST|-30n**oD=kp*oBxc00C10jc00By:00C1c:00B1c:00C1g@o00B<o00Cl5!00Bi,!00B)000Cz]000B+:00C1q:00B11!00C1o000B|!#$%&()*+,+./012343|AWST-8",
  "36292,0,LMT;39600,1,AEDT;n;n|-32o_4>D?l$4>Bxc00C10jc00By:00C1c:00B1c:00C1f!00B1a000C17c000B/!00C1$000B<o00C1zc00B?c00C14o00C1o000B]000C1q:00B_:00C1t!00B11!00C11!00B1o000C1f!00C|!#$%&()*+,./0101012101010101013401010156787858010101210101949494967:;69494967694763()()()()*)()()()()()*)()()()()(<()()()()()*)()()()()()*)()(|AEST-10AEDT,M10.1.0,M4.1.0/3",
  "B;A;A;B|-2a(e00B11d00A1i<00C11!00D1o000C>rc00C6i000D_:00C1f!00D1c:00C1c:00D16:00D1g::00C1a000D1f!00C1o000D11!00C1q:00D|!#$%&%()*+,.,/012.,.21,.,.,.,+,.,.,.,.,.,+,.,.,.,.,.23434345*5*5434345*5*5*5434345*5*543434345*5*5434345*5*543434345*5*5434345*5*5*54343|CET-1CEST,M3.5.0,M10.5.0/3",
  "C;I;i;l;C|-261s00B1n~00A11#00B@g;00C8x300Diw00A>w;00B1c/00A1c;00B1fz00As100B1^z00A/#00B1#~00A1a100B14p00B1lb00A?d00B1zb00A<p00B|!#$#%&()*+*+*+*+,+*+*./01+,2,+*+*+*+*+,2,+*+*+*343#$#$#34343#$#$#3434343#$#$#34343#$#$#56767656767676767656767676765676767676765676767676567676767676|CST6CDT,M3.2.0,M11.1.0",
  "D;E;E;D|h%#00B1a000A1f!00B1c:00A1c:00B1f!00A1o000A11!00B1q:00A_:00B|!#$%&%$#&%&%&%&(&%&%&%&%&%&(&%&%&%&%&%$)*)*)*+,+,+*)*)*+,+,+,+*)*)*+,+,+*)*)*)*+,+,+*)*)*+,+,+*)*)*)*+,+,+*)*)*+,+,+,+*)*)|EET-2EEST,M3.5.0/3,M10.5.0/4",
  "H|||EST5",
  "H;Z;-14400,1,EWT;-14400,1,EPT;H|-261t00B1n~00A11#00B@g;00C8x400Div00A>w;00B1c/00A1c;00B1fz00As100B1^z00A/#00B1#~00A1a100B14p00B1lb00A?d00B1zb00A<p00B|!#$#%&()*+*+*+*+,+*+*./01+,2,+*+*+*+*+,2,+*+*+*343#$#$#34343#$#$#3434343#$#$#34343#$#$#56767656767676767656767676765676767676765676767676567676767676|EST5EDT,M3.2.0,M11.1.0",
  "Y|||GMT0",
  "e|||<-01>1",
  "-36000,0,-10|||<-10>10",
  "-39600,0,-11|||<-11>11",
  "-43200,0,-12|||<-12>12",
  "x|||<-02>2",
  "K|||<-03>3",
  "L|||<-04>4",
  "q|||<-05>5",
  "-21600,0,-06|||<-06>6",
  "-25200,0,-07|||<-07>7",
  "-28800,0,-08|||<-08>8",
  "-32400,0,-09|||<-09>9",
  "3600,0,+01|||<+01>-1",
  "c|||<+10>-10",
  "S|||<+11>-11",
  "h|||<+12>-12",
  "46800,0,+13|||<+13>-13",
  "50400,0,+14|||<+14>-14",
  "7200,0,+02|||<+02>-2",
  "O|||<+03>-3",
  "F|||<+04>-4",
  "J|||<+05>-5",
  "M|||<+06>-6",
  "P|||<+07>-7",
  "W|||<+08>-8",
  "N|||<+09>-9",
  "0,0,UTC|||UTC0",
  "1172,0,LMT;4772,1,NST;1172,0,AMT;4772,1,NST;1172,0,AMT;1200,0,+0020;4800,1,+0120;4800,1,+0120;B;A;A;A;B|-5s*cjwC3i2000B11b00C1i=00D11!00E1io00D1c:00E1f!00D1a000E1co00D1io00E1yo00D=c00E1a000D1f!00E1#c00D:o00E1tc00D]o00E1t!00D]000E1uo00D_000E1s000D^!00E1so00D^c00E1s:00D]:00E1wo00D?c00E1u000D_o00E1r!00D1w000Df^00H#$~wF1t!00G]000F1u000G_o00F1sm00K601k0I_:00J1f!00I1c:00J1c:00I16:00I1g::00L1a000M1f!00L1c:00M1c:00L1f!00M1o000M11!00L1q:00M_:00L|!#$%&()*+*+*+,./0123456789:;<=>?@ABCDE:;<?@FGHIJKLMNOPQRQSTUVWXWVUXWXWXWXYXWXWXWXWXWXYXWXWXWXWXWVZ[Z[Z[]^]^][Z[Z[]^]^]^][Z[Z[]^]^][Z[Z[Z[]^]^][Z[Z[]^]^][Z[Z[Z[]^]^][Z[Z[]^]^]^][Z[Z|CET-1CEST,M3.5.0,M10.5.0/3",
  "364,0,LMT;j;B;A;B|-2:0:64B1=nc64C1x+;00D1c:00E1c:00D1f!00E1f!00D1o000E11!00D1q:00E_:00D|!#$%&%&%&%&%&(&%&%&%&%&%)*+*+*+,.,.,+*+*+,.,.,.,+*+*+,.,.,+*+*+*+,.,.,+*+*+,.,.,+*+*+*+,.,.,+*+*+,.,.,.,+*+*|CET-1CEST,M3.5.0,M10.5.0/3",
  "11532,0,LMT;O;R;F;F;R;r;O;F|-1=crccBe]:ccD23$/00C1db00D1c;00C1dd00C1c<00E1c:00F1c:00E1c:00G1c;00H1f!00H2pz00G1c:00H1f!00G1o000H11!00G1q:00H_:00G_:00E8*z00H3rd00E?7ge7E|!#$%&%&%()*+*+*+*+,.,/+0.,1,1,1234343456565434345656565434345789:|<+04>-4",
  "5692,0,LMT;5692,0,AMT;E;D;B;A;E;D;E;D|-30@;y>B<::10D$;bx>Cmn00Dk]100C9b00F3&s00E~a00F1fb00E1dd00Dk3~00C;z00D@$p00G1vc00H@<00G1c:00H1a000G1ao00H1fc00G1a100D1f)00C1cg00D1d~00C1b~00D1c>00I1c:00J1c:00I1f!00J1f!00I1o000J11!00I1q:00J_:00I|!#$%&()*+,./0123456789:;<=>=>=>?>=>=>=>=>=>?>=>=>=>=>=@ABABABCDCDCBABABCDCDCDCBABABCDCDCBABABABCDCDCBABABCDCDCBABABABCDCDCBABABCDCDCDCBABA|EET-2EEST,M3.5.0/3,M10.5.0/4",
  "4920,0,LMT;B;B;A;A;A;B|-3topm0B2ju/m0E3+=00C_:00D1f!00C1c:00D1c:00C1rc00D>o00C1vmo00F1c:00G1c:00F1f!00G1f!00F1o000G11!00F1q:00G_:00F|!#$%&()*+,./0/./././././0/././././.123232345454323234545454323234545432323234545432323454543232323454543232345454543232|CET-1CEST,M3.5.0,M10.5.0/3",
  "3208,0,LMT;A;B;A;B;10800,1,CEMT;10800,1,CEMT;A;B|-36?c?sC]b_?sB11d00C1i<00D11!00E1o000D>rc00D6i000E_:00D1f!00E1c:00D1c:00Ek/00F;c00Bm100E1ao00E1cp00Dd~00Gjz00B%d00E1io00D17c00E1f!00D1a000E1eh!00H1a000I1c:00H1c:00I1f!00I1f!00H1o000I11!00H1q:00I_:00H|!#$%&(&)*+,./.012+3456789:;<=>?>?>?>@>?>?>?>?>?>@>?>?>?>?>?ABCBCBCDEDEDCBCBCDEDEDEDCBCBCDEDEDCBCBCBCDEDEDCBCBCDEDEDCBCBCBCDEDEDCBCBCDEDEDEDCBCB|CET-1CEST,M3.5.0,M10.5.0/3",
  "1050,0,LMT;1050,0,BMT;j;B;A;B;A;b;j;j;A;B|-3%8:huBu1!huC@<000D3z~00G11c00D1i<00E11!00F1o000Emy00J+c00H1q:00I?c00H1&:00I]:00H1u000I10o00H1io00I1io00H17c00I1a000H1f!00I1c:00H1c:00I1f!00H1a000I1a300I%c00Hy000E5_n00F_:00E1f!00F1c:00E16:00F1i:00E1$000E]o00F1eeo00K1a000L1f!00K1c:00L1c:00K1f!00L1o000L11!00K1q:00L_:00K|!#$%&()*)+,./0123456789:56;<5=56;<569:749:78569:785.>?@ABCDEDFGHIJKLKJILKLKLKLMLKLKLKLKLKLMLKLKLKLKLKJNONONOPQPQPONONOPQPQPQPONONOPQPQPONONONOPQPQPONONOPQPQPONONONOPQPQPONONOPQPQPQPONON|CET-1CEST,M3.5.0,M10.5.0/3",
  "6264,0,LMT;6264,0,BMT;E;D;E;D;E;D|-3awp+oB1!]000F20/+oC?!00D1c:00C1c:00D1f!00C1!xc00E<n00F1f!00E1a100F1c<00C1f!00D1c.00C1c:00E1c/00F1c;00E1f#00E1n~00F11&00G1o000H11!00G1q:00H_:00G|!#$%&()(&(&(&(&(&(*+,./(&(&(&0&(&(&(&(&(&01(&(&(23435678989:;:;:98989:;:;:;:98989:;:;:9898989:;:;:98989:;:;:9898989:;:;:98989:;:;:;:9898|EET-2EEST,M3.5.0/3,M10.5.0/4",
  "4580,0,LMT;A;B;A;B;A;B|-3c.1gkC124/gkB11d00C1i<00D11!00E1o000B11!00C1oo00B11c00C1lc00B17c00C<1^00B3;f00E_:00D1f!00E1c:00D1c:00E1o,00B1dd00C10200D1f~00C1cp00D1f!00D1a000Ebhy00B?b00C1wr00B?c00C1$000B/!00C@;_00B1a000C1c:00B1c:00C1c<00F1f!00G1c:00F1c:00G1f!00F1o000G11!00F1q:00G_:00F|!#$%&()*+,./0123456789434:;<=>?@A@ABCDEDEDEFGHIHIHIHIHIHGHIHIHIHIHIJKLKLKLMNMNMLKLKLMNMNMNMLKLKLMNMNMLKLKLKLMNMNMLKLKLMNMNMLKLKLKLMNMNMLKLKLMNMNMNMLKLK|CET-1CEST,M3.5.0,M10.5.0/3",
  "6920,0,LMT;6900,0,CMT;6264,0,BMT;E;D;D;E;B;A;A;d;a;a;d;E;D|-3%8;[kB1w;!0kCw):a!F20/+oD?!00E1c:00D1c:00E1f!00D27!00G2en00J39g00H_:00I1f!00H1c:00I^900L1t7z00K1db00L1c;00K1dd00K1c<00M1c:00N1c:00Mg/00G_<00E1c.00G1c/00F1c;00G1f#00G1n~00F11%00G1o000F11!00G1q:00F_:00G_;00O1q:00P_:00O11!00O1o000P|!#$%&()*)()()()()()+,./0123454546789898989898:;()<=>=>=>=?@ABCBCDEDEDCBCBCDEDEDEDCBCBCDEDEDCBCBCBCDEDEDCBCBCDFGHGIJIJIJIGHGHGIJIJIGHGHGHGIJIJ|EET-2EEST,M3.5.0/3,M10.5.0/4",
  "3020,0,LMT;3020,0,CMT;A;B;B;A;A;B|-3e/!<kB9+o00D@ry<kC[z00D^u<00C60q00E_:00F1f!00E1c:00F1c:00E@000E1*!00F;c00E1$000F%c00E1;c00F!o00E1h5!00G1a000H1c:00G1c:00H1f!00H1f!00G1o000H11!00G1q:00H_:00G|!#$%&()*+,+./0123456787878797878787878797878787878:;<;<;<=>=>=<;<;<=>=>=>=<;<;<=>=>=<;<;<;<=>=>=<;<;<=>=>=<;<;<;<=>=>=<;<;<=>=>=>=<;<;|CET-1CEST,M3.5.0,M10.5.0/3",
  "-1521,0,LMT;-1521,0,DMT;2079,1,IST;3600,1,BST;Y;3600,1,IST;3600,0,IST;3600,1,IST;Y|-3#*by%B1ra200C?c00E1fzy%D14:00E1fc00D1g000E1co00D1dc00E1oo00E14000D19!00F1io00E1io00F_:00E1o000F14o00E17c00E1f!00F1a000E1lc00F1c:00E1q:00E%c00Fg6000E14o00F1wo00E17c00F11!00F1o000E1f!00E1a000F1c:00F_:00F1t!00E+:00F1&,00G7j%00I]000F11z00H1o000I11!00H1q:00I_:00H14o00H|!#$%&()*+*,.+/0123435156785156715156915671515671:;<=>?0@A?BCBDBC567158567151567C:E:@AE:E:E:EFGHIJFJFJFJFE:E:EFJFJFKLMLMLMNMLMLMLMLMNONMLMLMLMLMLPLMLMLMNONONMLMLMNONONONMLMLMNONONMLMLMLMNONONMLMLMNONONMLMLMLMNONONMLMLMNONONONMLML|GMT0IST,M3.5.0/1,M10.5.0",
  "-1284,0,LMT;3600,1,BST;Y;7200,1,BDST;Y;B;A;B|-3#*b$!E1ra1$!B?c00C1f!00B14:00C1fc00B1g000C1co00B1dc00C1oo00C14000B19!00B1io00C1io00B_:00C1o000B14o00C17c00C1a000C1lc00B1c:00C1q:00C%c00B2?z00D1zc00D<o00B?c00B1wo00D17c00B1i:00D(!00Bx#00C14o00Bbb00D/!00B1wo00C11!00B1o000C1f!00C1a000B1c:00B1f!00F10,z00G1c:00H1c:00G1f!00H1f!00G1o000H11!00G1q:00H_:00G|!#$%&()*+*,.+/012343515%67515%61515%815%61515%619:;:<=<>?@ABC%6DEFC>GHI@JKJLJK5%61575MNOPOPQPOPOPOPOPOPQPOPOPOPOPORSTSTSTUVUVUTSTSTUVUVUVUTSTSTUVUVUTSTSTSTUVUVUTSTSTUVUVUTSTSTSTUVUVUTSTSTUVUVUVUTSTS|CET-1CEST,M3.5.0,M10.5.0/3",
  "-609,0,LMT;3600,1,BST;Y;Y;B;A;A;7200,1,BDST;7200,1,BDST;3600,0,BST;3600,1,BST;Y|-2h&n;=D77d;=B?c00C1f!00B14:00C1fc00B1g000C1co00B1dc00C1oo00C14000B19!00B1io00C1io00B_:00C1o000B14o00C17c00C1a000C1lc00B1c:00C1q:00C%c00B=900G5(e00E_:00F1f!00E1c:00F1c:00Eel00Irf00Bx#00C14o00Bbb00H/!00B?c00B1wo00C11!00B1o000C17c00B1f!00C1a000B1c:00B_:00B1t!00C+:00B1&,00J7j%00L]000B11z00K1o000L11!00K1q:00L_:00K14o00K|!#$%&()*+*,.+/012343515%67515%61515%815%61515%619:;<=>?@?ABC%6DEFCGHIJKLMLNLM5%61575%61515%6M9O9IJO9O9O9OPQRSTPTPTPTPO9O9OPTPTPUVWVWVWXWVWVWVWVWXYXWVWVWVWVWVZVWVWVWXYXYXWVWVWXYXYXYXWVWVWXYXYXWVWVWVWXYXYXWVWVWXYXYXWVWVWVWXYXYXWVWVWXYXYXYXWVWV|GMT0BST,M3.5.0/1,M10.5.0",
  "5989,0,LMT;5989,0,HMT;E;D;E;D|-3*0;%;B1+u000D<]/%;C1d!00D1x)q00C1c:00D1c:00C1c;00E1c:00F1c:00E1f!00F1f!00E1o000F11!00E1q:00F_:00E|!#$%&()(*+,.,+,+,+,+,+,.,+,+,+,+,+/01010123232101012323232101012323210101012323210101232321010101232321010123232321010|EET-2EEST,M3.5.0/3,M10.5.0/4",
  "-1075,0,LMT;3600,1,BST;Y;7200,1,BDST;3600,0,BST;3600,1,BST;Y|-3vfb)5C1k)1)5B?c00C1f!00B14:00C1fc00B1g000C1co00B1dc00C1oo00C14000B19!00B1io00C1io00B_:00C1o000B14o00C17c00C1a000C1lc00B1c:00C1q:00C%c00B2?z00D1zc00D<o00B?c00B1wo00D17c00B1i:00D(!00Bx#00C14o00Bbb00D/!00B1wo00C11!00B1o000C1f!00C1a000B1c:00B_:00B1t!00C+:00B1&,00E7j%00G]000B11z00F1o000G11!00F1q:00G_:00F14o00F|!#$%&()*+*,.+/012343515%67515%61515%815%61515%619:;:<=<>?@ABC%6DEFC>GHI@JKJLJK5%61575%61515%6K9M9HIM9M9M9MNOPQRNRNRNRNM9M9MNRNRNSTUTUTUVUTUTUTUTUVWVUTUTUTUTUTXTUTUTUVWVWVUTUTUVWVWVWVUTUTUVWVWVUTUTUTUVWVWVUTUTUVWVWVUTUTUTUVWVWVUTUTUVWVWVWVUTUT|GMT0BST,M3.5.0/1,M10.5.0",
  "6952,0,LMT;7016,0,IMT;E;D;O;r;E;D;E;D;O|-3%8;[>B1e=~_]Ddzz]]C11b00D8t#00C1on00D14100C1db00D19#00C1in00D3?d00C]n00D1o;00Cz@;00C$/00Dmp00C1^z00D1g;00C8yn00D1yp00C:/00D1kp00C17b00D1ip00C1f#00C19~00Dqd#00C38/00D1jd00C[z00Dl6<00C11!00D_;00C1q/00D[#00C1t~00D]100C1tz00D11#00C17d00Cz900Ecne00Fpb00E2$p00D18000G14o00H1dc00G1c:00H1c:00G1f!00H1a000G1f!00G1o000H11!00G1q:00H_:00G_<00I1q:00J11!00I1o000J~c00I1qo00J_:00I12000I1n!00J1t!00J]000I15w00E>1)e7E|!#$%&()*+,./0%123456789:;:<=;=;:>?@ABCDEFGHIJ,KLMNOPQRSTSTSTSTUTSTSTSVUTSWXYXYXYZ[Z[ZYXYXYZ[Z[Z]^_a_a_^bcd^_aef_ghij|<+03>-3",
  "-506,0,LMT;3600,1,BST;Y;Y;B;A;A;7200,1,BDST;7200,1,BDST;3600,0,BST;3600,1,BST;Y|-2@e800D*&_00B?c00C1f!00B14:00C1fc00B1g000C1co00B1dc00C1oo00C14000B19!00B1io00C1io00B_:00C1o000B14o00C17c00C1a000C1lc00B1c:00C1q:00C%c00B=900G5(e00E_:00F1f!00E1c:00F1c:00Eel00Irf00Bx#00C14o00Bbb00H/!00B?c00B1wo00C11!00B1o000C17c00B1f!00C1a000B1c:00B_:00B1t!00C+:00B1&,00J7j%00D]000B11z00K1o000D11!00K1q:00D_:00K14o00K|!#$%&()*+*,.+/012343515%67515%61515%815%61515%619:;<=>?@?ABC%6DEFCGHIJKLMLNLM5%61575%61515%6M9O9IJO9O9O9OPQRSTPTPTPTPO9O9OPTPTPUVWVWVWXWVWVWVWVWXYXWVWVWVWVWVZVWVWVWXYXYXWVWVWXYXYXYXWVWVWXYXYXWVWVWVWXYXYXWVWVWXYXYXWVWVWVWXYXYXWVWVWXYXYXYXWVWV|GMT0BST,M3.5.0/1,M10.5.0",
  "4920,0,LMT;A;B;A;B;E;D;d;a;a;d;E;D;O;D|-36?dm0C]b~m0B11d00C1i<00D11!00E1o000D>rc00D6i000E_:00D1f!00E1c:00D1c:00E3900G7!00F1en00G12;00I1pbb00H1db00I1c;00H1dd00H1c<00J1c:00K1c:00J1c:00L1c;00M1f!00M1c:00M1f!00L1o000M11!00L1q:00M_:00L_:00N8*z00M|!#$%&(&)*+,./.0123456565789:9:9:9:;<;=;>;>;>;>;>?@A@A@ABCBCBA@A@ABCBCBCBA@A@ABDE|EET-2",
  "11928,0,LMT;O;R;F;F;R;d;a;14400,0,MSK;a|-22_:00Bq*900D23$/00C1db00D1c;00C1dd00C1c<00E1c:00F1c:00E1c:00G1c;00H1f!00H2pz00G1c:00H1f!00G1o000H11!00G1q:00H_:00G_:00I8*z00H|!#$%&%&%()*+*+*+*+,.,/+0.,1,1,123434345656543434565656543434578|MSK-3",
  "7324,0,LMT;7324,0,KMT;D;a;B;A;A;d;a;d;E;D;E;D;E|-3%8<24B1/]:00Ce]o24Drnz00G2*g00E_:00F1f!00Eda00D1v4m00H1db00D1c;00H1dd00H1c<00I1c:00J1c:00I%b00K32200L1c:00M1c:00L1f!00M1o100N11!00O1o000N1q:00N_:00O|!#$%&()*+,.,.,/0121212121213456565656789:9:9;<;<;9:9:9;<;<;<;9:9:9;<;<;9:9:9:9;<;<;9:9:9;<;<;9:9:9:9;<;<;9:9:9;<;<;<;9:9:|EET-2EEST,M3.5.0/3,M10.5.0/4",
  "-2205,0,LMT;b;j;b;j;7200,1,WEMT;j;B;b;B;A;b;j|-3tonnfA18annfGa=~00B@p00C:000B1vb00C@;00B[d00B66000D18o00E3+000D17c00E1f!00D1a000E1io00D1c:00D1c:00E3(c00D1a000D1f!00E1q:00E%c00D1uo00E1c000D1dc00E14000Dg/00F+:00Ds100E]000Dd~00F?c00Dpd00E<o00D14o00D1c=00D1c:00Hoi.00C1f#00D1c/00D1c;00I1c:00G1c:00I1f!00G1c:00J1c:00K1f!00I1o000G11!00I1q:00G_:00I|!#$%&()()(*()(+,./01212/./3454672/3467289:;<=>?@ABCDC>EDC>EDF4G43434343734343434373434343434373434343HI34J43401K434343734LMNMNMNMNONMNPQPQPQPRSTSTSTUVUVUTSTSTUVUVUVUTSTSTUVUVUTSTSTSTUVUVUTSTSTUVUVUTSTSTSTUVUVUTSTSTUVUVUVUTSTS|WET0WEST,M3.5.0/1,M10.5.0",
  "3484,0,LMT;B;B;A;A;A;B|-3too_4B2ju._4E3+=00C_:00D1f!00C1c:00D1c:00C16:00C1vmo00F1c:00G1c:00F1f!00G1f!00F1o000G11!00F1q:00G_:00F|!#$%&()(*+,./.,.,.,.,.,./.,.,.,.,.,012121234343212123434343212123434321212123434321212343432121212343432121234343432121|CET-1CEST,M3.5.0,M10.5.0/3",
  "-75,0,LMT;3600,1,BST;Y;7200,1,BDST;Y;3600,0,BST;3600,1,BST;Y|-4^gn_,E2.*d_,B?c00C1f!00B14:00C1fc00B1g000C1co00B1dc00C1oo00C14000B19!00B1io00C1io00B_:00C1o000B14o00C17c00C1a000C1lc00B1c:00C1q:00C%c00B2?z00D1zc00D<o00B?c00B1wo00D17c00B1i:00D(!00Bx#00C14o00Bbb00D/!00B1wo00C11!00B1o000C1f!00C1a000B1c:00B_:00B1t!00C+:00B1&,00F7j%00H]000B11z00G1o000H11!00G1q:00H_:00G14o00G|!#$%&()*+*,.+/012343515%67515%61515%815%61515%619:;:<=<>?@ABC%6DEFC>GHI@JKJLJK5%61575%61515%6K9M9HIM9M9M9MNOPQRNRNRNRNM9M9MNRNRNSTUTUTUVUTUTUTUTUVWVUTUTUTUTUTXTUTUTUVWVWVUTUTUVWVWVWVUTUTUVWVWVUTUTUTUVWVWVUTUTUVWVWVUTUTUTUVWVWVUTUTUVWVWVWVUTUT|GMT0BST,M3.5.0/1,M10.5.0",
  "1476,0,LMT;A;B;A;B;b;j;j;b;3600,0,WET;7200,1,WEST;7200,1,WEST;A;B|-2%)0o!Ct6mo!B[#00C1n~00B]p00C1o200D11!00Er_00G$:00F1q=00G?900F1&<00G].00F1u200G10m00F1ip00G1in00F17e00G19_00F1f#00G1db00F1cp00G17d00G1fz00F1a100G17f00H1f!00I1a000H1io00I17c00H1c:00I1c:00H1a000I1io00H1f!00H1q:00H%c00Iv!00L60/00J_:00K1f!00J1c:00K17c00C1io00D16:00E1$000D]o00E1eeo00M1a000N1f!00M1c:00N1c:00M1f!00N1o000N11!00M1q:00N_:00M|!#$%&()*+,./01234567894:;<4<4=>?@ABCDEBCDF@ABCDF@GHIJKLMNOPQRSTUVWVUTWVWVWVWXWVWVWVWVWVWXWVWVWVWVWVUYZYZYZ[][][ZYZYZ[][][][ZYZYZ[][][ZYZYZYZ[][][ZYZYZ[][][ZYZYZYZ[][][ZYZYZ[][][][ZYZY|CET-1CEST,M3.5.0,M10.5.0/3",
  "-884,0,LMT;b;j;7200,1,WEMT;j;A;B;A;B;A;B|-2:0:00E)5z00B19#00C1c/00B1dd00Cb1z00B18p00C3*~00B17d00C1fz00B1a100C1io00B1a000C1in00Bi+n00B*d00Cbb00D12000B2s200C14n00G5a/00F:p00G1vz00F17d00G1in00F6h~00F11#00G~*~00F1a100G1fz00F19~00F1c;00G1f$00H1c:00I1c:00J1c:00K1f!00J1a000K1f!00K1o000K11!00J1q:00K_:00J|!#$%&()*+,./01+23%456789:;<;<;<;=>?@A@BCA@DEFGHIFGFGFGFJFGFGFGFGFGFJFGFGFGFGFGHKLKLKLMNMNMLKLKLMNMNMNMLKLKLMNMNMLKLKLKLMNMNMLKLKLMNMNMLKLKLKLMNMNMLKLKLMNMNMNMLKLK|CET-1CEST,M3.5.0,M10.5.0/3",
  "3484,0,LMT;A;B;B;A;A;B|-35rc_4C@~z_4B/z00C1c;00B1db00C14100B1on00C_p00B1q/00C17d00B1c/00C:3#00B5:200D_:00E1f!00D1co00E17c00D1i:00B16m00C1de00E1lc00D14m00E_<00E1q:00D)[_00E<n00C1$100E/!00D1$000E1&:00E1zc00E<o00D1c:00D1l!00E~c00D1qq00B11z00C1o100B1i;00B19z00C1f#00F1c:00G1c:00F1f!00G1f!00F1o000G11!00F1q:00G_:00F|!#$%&()*+,./01234567898:;<=>?@?A?@?BC@C3DEFGHIHIHIHIHJKLMNMNMNONMNMNMNMNMNONMNMNMNMNMPQRQRQRSTSTSRQRQRSTSTSTSRQRQRSTSTSRQRQRQRSTSTSRQRQRSTSTSRQRQRQRSTSTSRQRQRSTSTSTSRQRQ|CET-1CEST,M3.5.0,M10.5.0/3",
  "6616,0,LMT;6600,0,MMT;D;a;B;A;A;d;a;d;E;D;O|-3%8;<gB1/]:0gCe]n<0Dq;~00G3g>00E_:00F1f!00E1c:00F!l00D1tsn00H1db00D1c;00H1dd00H1c<00I1c:00J1c:00I3(c00K1c;00L1c:00K1c:00L1f!00K1o000L11!00K1q:00L_:00K_:00M15i3e7M|!#$%&()*+,././.012323232323456767676789:9:9:;<;<;:9:9:;<;<;<;:9:9:;=>|<+03>-3",
  "1772,0,LMT;561,0,PMT;b;j;b;7200,1,WEMT;j;A;B;A;B|-38@:twB,;!kbGc(~9lC*!00D19!00C1i:00D11c00C1oo00D_o00C1rc00D>:00C1&:00D]:00C1u000D10o00C1io00D1wo00C?c00D1a000C1f!00D1c:00C1c:00D1io00C17c00D1f!00C1a000D1q:00D%f00E2?^00F11z00E11#00F1ze00E_:00F1f!00E1c:00F1fa00E1aq00F16:00I1ekn00H1c/00I1f$00J1a000K1f!00J1c:00K1c:00J1f!00K1o000K11!00J1q:00K_:00J|!#$%&()*+,./0123456789:;<=:=:;<=:;89638967:;8967:>?@ABCDEFGHIJKLMNOPONMPOPOPOPQPOPOPOPOPOPQPOPOPOPOPONRSRSRSTUTUTSRSRSTUTUTUTSRSRSTUTUTSRSRSRSTUTUTSRSRSTUTUTSRSRSRSTUTUTSRSRSTUTUTUTSRSR|CET-1CEST,M3.5.0,M10.5.0/3",
  "9017,0,LMT;9017,0,MMT;12679,1,MST;9079,0,MMT;16279,1,MDST;d;a;d;R;D;a;d;E;D;14400,0,MSK;d;a|-3%8<uhB1s>:00D2py__C1b!00D11~00E);00C1*b00Ec4vjFik00G3%!00Hdz00I15!00Hc100G2q100Ji:100G23$/00H1db00G1c;00H1dd00H1c<00K1c:00L1c:00K1f!00K1c:00M1c;00N+:00Kr~00L1f!00L1o000K11!00L1q:00K_:00L_:00O8*z00K|!#$%&()*+,./0123454546789898989898:;<=>9898989?@A@A@ABCBCBA@A@ABCBCBCBA@A@ABDE|MSK-3",
  "2580,0,LMT;A;B;B;A;A;B|-32#c*0C>4o*0B>m00C_6o00B5pf00D_:00E1f!00D1c:00E1c:00Dw,c00E1q:00E_:00Dzpc00F1a000G1c:00F1c:00G1f!00G1f!00F1o000G11!00F1q:00G_:00F|!#$%&()*+*+,)*+*+*+*+*)./01232323242323232323242323232323567676789898767678989898767678989876767678989876767898987676767898987676789898987676|CET-1CEST,M3.5.0,M10.5.0/3",
  "561,0,LMT;561,0,PMT;b;j;b;j;B;A;A;7200,1,WEMT;B;A;B|-3b>09lB:%!00Fc;b9lC*!00D19!00C1i:00D11c00C1oo00D_o00C1rc00D>:00C1&:00D]:00C1u000D10o00C1io00D1wo00C?c00D1a000C1f!00D1c:00C1c:00D1io00C17c00D1f!00C1a000D1q:00D%f00E+k00I5:300G_:00H1f!00G1c:00H^x00Jh#00E1aq00J16:00K1ekn00I1c/00K1f$00L1a000M1f!00L1c:00M1c:00L1f!00M1o000M11!00L1q:00M_:00L|!#$%&()*+,./0123456789:;<=:=:;<=:;89638967:;8967:>?@ABCDEFGHIJKLMNONMLONONONOPONONONONONOPONONONONONMQRQRQRSTSTSRQRQRSTSTSTSRQRQRSTSTSRQRQRQRSTSTSRQRQRSTSTSRQRQRQRSTSTSRQRQRSTSTSTSRQRQ|CET-1CEST,M3.5.0,M10.5.0/3",
  "3464,0,LMT;3464,0,PMT;A;B;A;B;Y;A;B|-4>b!^+B1(%c00D~=a^+C11d00D1i<00E11!00F1o000E>rc00E6i000F_:00E1f!00F1c:00E1c:00F1q:00E11c00Fmp00Gx!00Dmn00E17c00F1io00E1fc00E1ao00F1b;c00H1c:00I1f!00H1a000I1c:00H1f!00I1o000I11!00H1q:00I_:00H|!#$%&()(*+,./0/01234567689:;<=>;>;>;>?>;>;>;>;>;>?>;>;>;>;>;<@A@A@ABCBCBA@A@ABCBCBCBA@A@ABCBCBA@A@A@ABCBCBA@A@ABCBCBA@A@A@ABCBCBA@A@ABCBCBCBA@A@|CET-1CEST,M3.5.0,M10.5.0/3",
  "5794,0,LMT;5794,0,RMT;9394,1,LST;D;a;B;A;A;d;a;d;E;D;E;D|-3%8;!yB1xde00C11!00B1i:00Cko00Bg_m00Dy%~!yE2b~00H3f&00F_:00G1f!00F1c:00G1c:00F4m00E1s/y00I1db00E1c;00I1dd00I1c<00J1c:00K1c:00J1c:00L1c;00M1f!00M1c:00M1f!00L1c;00N1o000O11!00N1q:00O3oo00N_:00N|!#$%&()*+,./0123434356787878789:9;9<9<9<9<9<=<>?@?@ABA@?@?@ACACACA@?@?@ACACA@?@?@?@ACACA@?@?@ACACA@?@?@?@ACACA@?@?@ACACACA@?@?|EET-2EEST,M3.5.0/3,M10.5.0/4",
  "2996,0,LMT;2996,0,RMT;A;B;B;A;B;A|-4a]0;]B15sn;]G[0000C/z00D1c;00C1db00D14100C1on00D_p00C1q/00D17d00C1c/00D:3#00C5:200E_:00F1f!00E1c:00F16:00E1i:00C16m00D1de00F1lc00E14m00F_<00F1q:00E)[_00F<n00D1$100F/!00E1$000F1&:00F1zc00F<o00E1f$00H1a000G1c:00H1c:00G1f!00G1f!00H1o000G11!00H1q:00G_:00H|!#$%&()*+,./0123456789:9;<=>?@A@B@A@CDADA@CDA@A@CDADCDEFGHGHGHGIGHGHGHGHGHGIGHGHGHGHGHJKLKLKLMNMNMLKLKLMNMNMNMLKLKLMNMNMLKLKLKLMNMNMLKLKLMNMNMLKLKLKLMNMNMLKLKLMNMNMNMLKLK|CET-1CEST,M3.5.0,M10.5.0/3",
  "12020,0,LMT;O;F;R;F;R;r;O;10800,1,+03;r;F|-22_:00Bq*900C23$/00D1db00C1c;00D1dd00D1c<00E1c:00F1c:00E1c:00G1c;00H1f!00H1c:00I8o00C14m00F1f!00F1o000E11!00F1q:00E_:00F11!00G1q;00H_:00E15i4e7E|!#$%&%&%()*+*+*+*+,.,/0.12+*+*+*+345454567676545456767676545489:;|<+04>-4",
  "4420,0,LMT;B;B;A;A;A;B|-3topd&B2ju/d&E3+=00C_:00D1f!00C1c:00D1c:00C16:00C1vmo00F1c:00G1c:00F1f!00G1f!00F1o000G11!00F1q:00G_:00F|!#$%&()(*+,./.,.,.,.,.,./.,.,.,.,.,012121234343212123434343212123434321212123434321212343432121212343432121234343432121|CET-1CEST,M3.5.0,M10.5.0/3",
  "11058,0,LMT;O;R;F;F;R;r;O;F|-22_:00Bq*900D23$/00C1db00D1c;00C1dd00C1c<00E1c:00F1c:00E1c:00G1c;00H1c:00H1f!00H2pz00G1f!00G1o000H11!00G1q:00H_:00G_:00E8*z00H58100E=qse7E|!#$%&%&%()*+*+*+,.,/,0+1.,/,/,/234343456565434345656565434345789:|<+04>-4",
  "8184,0,LMT;8160,0,SMT;D;a;B;A;A;d;a;d;E;D;E;D;14400,0,MSK;a|-3%8<goB1/]:0oCe]og0Dr&n00G2qs00E_:00F1f!00E1c:00F3^00D1u0/00H1db00D1c;00H1dd00H1c<00I1c:00J1c:00I1>000C4e;00K1c:00L1c:00Kd^00H_<00I1fy00J1o300I11#00M1o000N11!00M1q:00N_:00M11z00O1n_00I|!#$%&()*+,././.0123232323234567678923:;<=>=>?@?@?>=>=>?@?@?@?>=>=>?@?@?>=AB|MSK-3",
  "5144,0,LMT;B;B;A;A;A;B|-3topp+B2ju/p+E3+=00C_:00D1f!00C1c:00D1c:00C16:00C1vmo00F1c:00G1c:00F1f!00G1f!00F1o000G11!00F1q:00G_:00F|!#$%&()(*+,./.,.,.,.,.,./.,.,.,.,.,012121234343212123434343212123434321212123434321212343432121212343432121234343432121|CET-1CEST,M3.5.0,M10.5.0/3",
  "5596,0,LMT;7016,0,IMT;D;B;A;E;D;E;E;D|-3%8;xgB!i/!kC1](e]]D_:00E1f!00D1c:00E1c:00D1c;00C1m.*00F1dd00C1fb00F1ap00C1a200C1fy00F1a300G1c:00H1c:00G1f!00G1c.00F1c/00C1c;00F1f#00F1n~00C11&00I1o000J11!00I1q:00J_:00I|!#$%&()*+,./.012343534343434343567878787879:;<=<=>?>?>=<=<=>?>?>?>=<=<=>?>?>=<=<=<=>?>?>=<=<=>?>?>=<=<=<=>?>?>=<=<=>?>?>?>=<=<|EET-2EEST,M3.5.0/3,M10.5.0/4",
  "4332,0,LMT;3614,0,SET;B;A;A;B|-3(y;ccB=80b_C%=b0eD[#00C2y%e00E1a000F1c:00E1c:00F1f!00F1f!00E1o000F11!00E1q:00F_:00E|!#$%&()*)*)*)+)*)*)*)*)*)+)*)*)*)*)*,./././01010/././0101010/././01010/./././01010/././01010/./././01010/././0101010/./.|CET-1CEST,M3.5.0,M10.5.0/3",
  "5940,0,LMT;5940,0,TMT;A;B;B;D;a;A;d;a;d;E;D;D;E|-3%8;%0B1w+000Ete%0C11!00D1[a00B4r~l0F.@/%0G2(~00H2,g00D_:00C1f!00D1c:00C18,00G1s[~00I1db00G1c;00I1dd00I1c<00J1c:00K1c:00J1c:00L1c;00M1f!00M1c:00M1f!00L1o000M11!00L1o100N11!00O1q:00F5>:00O1o000N1q:00N_:00O|!#$%&()*+,./01232324567676767898:8;8;8;8;8;<=>=>?@ABC@C@DEDEDED@C@C@DEDED@C@C@C@DEDED@C@C@DEDED@C@C@C@DEDED@C@C@DEDEDED@C@C|EET-2EEST,M3.5.0/3,M10.5.0/4",
  "4760,0,LMT;B;A;B;A|-2gl#jkB14pcjkC5/$00B_:00C4:00B1f$.00C10n00B1op00C11z00B1pd00C1q;00C_/00B1qp00C~b00B1l#00C1i;00C16n00B1dd00C1c<00D1c:00E1c:00D1f!00D1f!00E1o000D11!00E1q:00D_:00E|!#$%&()*+,+./01010+2+.+34567878787878797878787878:;<;<;<=>=>=<;<;<=>=>=>=<;<;<=>=>=<;<;<;<=>=>=<;<;<=>=>=<;<;<;<=>=>=<;<;<=>=>=>=<;<;|CET-1CEST,M3.5.0,M10.5.0/3",
  "11616,0,LMT;O;R;F;F;R;r;O;10800,1,+03;7200,0,+02;r;F|-22_:00Bq*900D23$/00C1db00D1c;00C1dd00C1c<00E1c:00F1c:00E1c:00G1c;00H1f!00H1c:00I1c;00J+:00Hr~00G1c:00H1f!00G1o000H11!00G1q:00H_:00G_:00E8*z00H3rd00E?7ge7E|!#$%&%&%()*+*+*+*+,.,/01234,4,4,4567676789898767678989898767678:;<=|<+04>-4",
  "2284,0,LMT;A;B;A;B|-342:$4C1@f!$4B11!00C1o000B1x)100D1c:00E1c:00D1f!00E1f!00D1o000E11!00D1q:00E_:00D|!#$%$&()()()*)()()()()()*)()()()()(+,.,.,./0/0/.,.,./0/0/0/.,.,./0/0/.,.,.,./0/0/.,.,./0/0/.,.,.,./0/0/.,.,./0/0/0/.,.,|CET-1CEST,M3.5.0,M10.5.0/3",
  "3921,0,LMT;A;B;A;B;A;B|-36?d5lC]b~5lB11d00C1i<00D11!00E1o000D3.:00D14o00E/!000D6i000E_:00D1f!00E1c:00D1c:00E4000E2q:00D1ao00E1co00D1io00D17c00E1g*a00B19~00C1c=00F1c:00G1c:00F1f!00G1f!00F1o000G11!00F1q:00G_:00F|!#$%&(&)*+,./010234516789:;<;<;<=<;<;<;<;<;<=<;<;<;<;<;>?@?@?@ABABA@?@?@ABABABA@?@?@ABABA@?@?@?@ABABA@?@?@ABABA@?@?@?@ABABA@?@?@ABABABA@?@?|CET-1CEST,M3.5.0,M10.5.0/3",
  "6076,0,LMT;5040,0,WMT;5736,0,KMT;B;D;a;B;A;A;d;a;d;E;D;A;B;D;E|-3%8;(gB1u5!hgC6+/:oD1<oz!Ezz00D:fd00F29_00I3is00G_:00H1f!00G1c:00H/^00F1tg/00J1db00F1c;00J1dd00J1c<00K1c:00L1c:00K1c:00M1c;00N1f!00N1c:00N1f!00M1o000N11!00M11#00O1o000P11!00O1q:00Q8io00R1o000Q11!00R_:00R|!#$%&()*+,./012121345656565678797:7:7:7:7:;<=<>?@ABCDAEAEAEADCDCDAEAEADCDCDCDAEAEADCDCDAEAEADCDCDCDAEAEADCDCDAEAEAEADCDC|EET-2EEST,M3.5.0/3,M10.5.0/4",
  "10660,0,LMT;O;F;R;F;R;d;a;14400,0,MSK;a|-21+q^&Bps/^&C23$/00D1db00C1c;00D1dd00D1c<00E1c:00F1c:00E1c:00G1c;00H1c:00H1f!00H2pz00G1f!00G1o000H11!00G1q:00H_:00G_:00I8*z00H9,d00E5gn00H|!#$%&%&%()*+*+*+,.,/,0+1.,/,/,/234343456565434345656565434345789:|MSK-3",
  "5040,0,LMT;5040,0,WMT;A;B;A;B;E;D;D;A;B|-3%8;o0B1q%!00D1/~o0C11d00D1i<00E11!00F1o000E11!00I1on00G11!00H6zy00D*_=00C5+:00F_:00E1f!00F1c:00E1dz00D1m/00C1en00D15#00E1aq00F1n!00E1io00E17c00F1f!00E1a000Fi%~00E/!00F1c:00F1$000E<o00F1zc00Euso00E1c;00J1c:00K1c:00J1f!00K1f!00J1o000K11!00J1q:00K_:00J|!#$%&()*+,./0123456789(:;<=>?3@AB3@CBCBCBA?D=<@3@<=3@3@3@323@3@3@EFGFGHGFGFGFGFGFIJKJKJKLMLMLKJKJKLMLMLMLKJKJKLMLMLKJKJKJKLMLMLKJKJKLMLMLKJKJKJKLMLMLKJKJKLMLMLMLKJKJ|CET-1CEST,M3.5.0,M10.5.0/3",
  "3832,0,LMT;B;B;A;A;A;B|-3top3>B2ju/3>E3+=00C_:00D1f!00C1c:00D1c:00C16:00C1vmo00F1c:00G1c:00F1f!00G1f!00F1o000G11!00F1q:00G_:00F|!#$%&()(*+,./.,.,.,.,.,./.,.,.,.,.,012121234343212123434343212123434321212123434321212343432121212343432121234343432121|CET-1CEST,M3.5.0,M10.5.0/3",
  "2048,0,LMT;1786,0,BMT;A;B;A;B|-4*y:y8B1%w04mD1@f!t.C11!00D1o000C1x)100E1c:00F1c:00E1f!00F1f!00E1o000F11!00E1q:00F_:00E|!#$%&%()*)*)*+*)*)*)*)*)*+*)*)*)*)*),./././01010/././0101010/././01010/./././01010/././01010/./././01010/././0101010/./.|CET-1CEST,M3.5.0,M10.5.0/3",
  "y|||<-00>0",
  "-36000,0,HST|||HST10",
  "11404,0,LMT;m;14400,1,EAST;m|-2mr%a4B1*?ba4C!o00D|!#$|EAT-3",
  "17380,0,LMT;J;M|-2xos;&B3!)/;&C1)n+e7C|!#$|<+06>-6",
  "25372,0,LMT;P|-32o[2>B5:6_g~B|!#|<+07>-7",
  "23260,0,LMT;23400,0,+0630|-2<q@r&B5!8^(/B|!#|<+0630>-6:30",
  "10384,0,LMT;m|-2mr$?4B|!|EAT-3",
  "y;J|-:)000B3yo3e7B|!#|<+05>-5",
  "13308,0,LMT;F|-2xor(:B5j6u[[B|!#|<+04>-4",
  "17640,0,LMT;17640,0,MMT;J|-3%8>@0B3e/!00C3a3k87C|!#$|<+05>-5",
  "13800,0,LMT;R;F|-2xor<0C34un<0B14/00C12kr00B11z00C1a9ie7C|!#$%&(|<+04>-4",
  "10856,0,LMT;m|-2mr%0]B|!|EAT-3",
  "13312,0,LMT;F|-2m%%(>B58l)[~B|!#|<+04>-4",
  "3600,0,MET;7200,1,MEST;7200,1,MEST;3600,0,MET|-2a(e00B11d00A1i<00C11!00D1o000C>rc00C6i000D_:00C1f!00D1c:00C1c:00D16:00D1g::00C1a000D1f!00C1o000D11!00C1q:00D|!#$%&%()*+,.,/012.,.21,.,.,.,+,.,.,.,.,.,+,.,.,.,.,.23434345*5*5434345*5*5*5434345*5*543434345*5*5434345*5*543434345*5*5434345*5*5*54343|MET-1MEST,M3.5.0,M10.5.0/3",
  "G|||MST7",
  "G;X;w;z;G|-261r00B1n~00A11#00B@g;00C8x200Dix00A>w;00B1c/00A1c;00B1fz00As100B1^z00A/#00B1#~00A1a100B14p00B1lb00A?d00B1zb00A<p00B|!#$#%&()*+*+*+*+,+*+*./01+,2,+*+*+*+*+,2,+*+*+*343#$#$#34343#$#$#3434343#$#$#34343#$#$#56767656767676767656767676765676767676765676767676567676767676|MST7MDT,M3.2.0,M11.1.0",
  "g;o;-25200,1,PWT;-25200,1,PPT;g|-261q00B1n~00A11#00B@g;00C8x100Diy00A>w;00B1c/00A1c;00B1fz00As100B1^z00A/#00B1#~00A1a100B14p00B1lb00A?d00B1zb00A<p00B|!#$#%&()*+*+*+*+,+*+*./01+,2,+*+*+*+*+,2,+*+*+*343#$#$#34343#$#$#3434343#$#$#34343#$#$#56767656767676767656767676765676767676765676767676567676767676|PST8PDT,M3.2.0,M11.1.0",
  "45184,0,LMT;-41216,0,LMT;-41400,0,-1130;-36000,1,-10;-39600,0,-11;46800,0,+13;50400,1,+14|-38(ox4B,1!00C1y_034E2r?bu0D1ff00E1a000D$+00G!>00F1c:00G1f!00F1a000G&?;e7F|!#$%&()*+,.,.,.,.,.,+,.,.,/|<+13>-13",
  "41944,0,LMT;45000,1,NZST;41400,0,NZMT;43200,1,NZST;46800,1,NZDT;43200,0,NZST;43200,0,NZST|-46j/%4C2n&<94B/z00C1t#00D11zu0C1o0u0D14nu0C1lcu0D1lbu0C11!u0D1n~u0C1q/u0C_:u0Dc/^u0G1ade00E+:00F1$000E?c00F1zc00E<o00F1q:00E14o00F1lc00E17c00F1io00E1f!00F1a000E1c:00E1io00F|!#$%&(&(&()*)*+,.,.,.,.,/0/,123456767676767656767676767656789:9:9:;<;<;<;:9:9:;<;<;:9:9:;<;<;<;<=>=>=>=>=?=>=>=>=>=>=?=>=>=>=>=>@>=>=>=>=>=?=>=>=>=>=>=?=>=>|NZST-12NZDT,M9.5.0,M4.1.0/3",
  "37336,0,LMT;35312,0,PMMT;c;N;S|-3%8_mgB!v!x+C1[$/:wD7$;00C2:>p00E]9ne7E|!#$%&(|<+11>-11",
  "44028,0,LMT;44100,0,+1215;49500,1,+1345;45900,0,+1245;45900,0,+1245|-46j:d:B37?b_:E1adef0C+:00D1$000C?c00D1zc00C<o00D1q:00C14o00D1lc00C17c00D1io00C1f!00D1a000C1c:00C1io00D,;e7C|!#$%&()*)*)*)*)*)()*)*)*)*)*)()*+,.,.,./0/0/0/.,.,./0/0/.,.,./0/0/0/01212121213121212121213121212121242121212121312121212121312125|<+1245>-12:45<+1345>,M9.5.0/2:45,M4.1.0/3:45",
  "-49972,0,LMT;36428,0,LMT;c;N;c|-54ma78B2glc00Cxso78Dax#00C?^~00Daxd00C3,9:e7C|!#$%&()|<+10>-10",
  "-26248,0,LMT;-26248,0,EMT;-21600,1,-06;-25200,0,-07;-25200,0,-07;-21600,0,-06;-18000,1,-05|-3e/s)wB1*?c00E1s4+)wC_/00D1zd00C<n00D1ip00C11z00D1o100C1q;00C1ld00C14n00D11z00F1o100G1q;00G_/00F1c/00F1c;00G1f#00G19~00F17b00F1ip00G1fz00F1n~00F)100G1&/00F<p00G1zb00F?d00G1wn00F46n00F!p00G1;b00F11#00G14p00G1lb00F1q/00F_;00G?~e7G|!#$%&()*+*,%./,%,*+*+*,%,%,*+0101023232450102367201010102328909:60232323201010232890176;<=>?@A@BCDCDC?E;E;E;FGEHE;E;E;E;EHIHE;E;E;E;EHIHE;EJ|<-06>6<-05>,M9.1.6/22,M4.1.6/22",
  "40396,0,LMT;k;S;k;S|-2l9ndgE2u;~dgB%c00Cn6100D1c/00E1c;00D1f#00D19~00E/z00E1;d00D!n00E1;w%e7E|!#$%&(&)*)&(&(&(&(&)+,./|<+11>-11",
  "-41096,0,LMT;-39600,0,-11;46800,0,+13|-2:0!z4B4uf~z4C13q&e7C|!#$|<+13>-13",
  "42944,0,LMT;46800,1,+13;h|-2b]z[+C3m8;[+B/!00C1&:00B+:00Cn,c00B1o000B?c00C1wo00B!o00C1;c00B1>000Bxz00C1@;00Bu:00C1@:00B1^!00Bs000C20o00Bpc00C2hc00Bbc00C(o#e7C|!#$%&($)*+,.,/012324545456789:|<+12>-12",
  "43012,0,LMT;h|-2:0~]>B5x*3a~B|!#|<+12>-12",
  "-21504,0,LMT;q;-18000,1,-05;-21600,0,-06|-1y^@1!B2d[z1!Dg;d00Crz00D1;rye7D|!#$%&|<-06>6",
  "-32388,0,LMT;-32400,0,-09|-2jof0cB556iejB|!#|<-09>9",
  "38388,0,LMT;S|-2joy%:B556#?[B|!#|<+11>-11",
  "-51660,0,LMT;34740,0,LMT;36000,0,GST;N;39600,1,GDT;36000,0,ChST|-54m9%0B2glc00C1%(b%0D6p#00C!h#00E3>/00Cg2p00E3p910C_<~0Er~00C1zd00E?b00C1wp00E5xd00E5s;00Ezb10C1$0~0E<n00C]/b00F|!#$%&()*+,./0/1,23456|ChST-10",
  "-37886,0,LMT;-37800,0,HST;-34200,1,HDT;-34200,1,HWT;-34200,1,HPT;-36000,0,HST|-3061syB1u:d_yC8x00Blef00D8w_u0Ei!u0B46p00F|!#$%&()|HST10",
  "y;-43200,0,-12;-39600,0,-11;46800,0,+13|-1i+o00B1)s!00C#7~00D1+;>e7D|!#$%|<+13>-13",
  "-37760,0,LMT;-38400,0,-1040;-36000,0,-10;50400,0,+14|-2:0#u&B3b+:a&C#7~k0D1+;?e7D|!#$%|<+14>-14",
  "-47284,0,LMT;39116,0,LMT;S;N;c;h;S|-54ma=]B2glc00Cxsn=]Dax$00C*#y00Eakp00Daxd00C_<.00F1bdz00C1z5re7C|!#$%&()*+,|<+11>-11",
  "40160,0,LMT;S;c;N;-43200,0,-12;h|-2:0~9kB1r%!9kCakp00D6]p00B12ry00E_an00F1:8%e7F|!#$%&()|<+12>-12",
  "41088,0,LMT;S;N;c;h|-2:0~o:Bxsoo:Cax$00B*#y00Dakp00C6?#00B12um00E2.j2e7E|!#$%&()*|<+12>-12",
  "-33480,0,LMT;-34200,0,-0930|-2joe)0B556h]7B|!#|<-0930>9:30",
  "-42568,0,LMT;-39600,0,-11;-36000,1,-10;-39600,0,SST|-2:0!awB2e]/awC!n00D|!#$|SST11",
  "40060,0,LMT;41400,0,+1130;N;h|-1~dn7&B>$n#&C7mqu0B1lnbu0D2nvo+7D|!#$%&|<+12>-12",
  "-40780,0,LMT;-40800,0,-1120;-39600,0,-11|-(@c&kBsuo0kC2~5=@7C|!#$|<-11>11",
  "40312,0,LMT;40320,0,+1112;41400,0,+1130;45000,1,+1230;41400,0,+1130;S;k|-2:0~b>B21+/~>C_01)0D<o00E1$<o00F9,cu0G1c:00F1c:00G1f!00F1f!00G*0e7G|!#$%&()*)*)*)*+*)*)*)*)*),)*)*)*)*)*),)*)*.|<+11>-11<+12>,M10.1.0,M4.1.0/3",
  "39948,0,LMT;k;S;k;S|-2l9n5:C2&q:5:Bx~00C1=#00Byn00C*e=00D!o00E1%xoe7E|!#$%&()*|<+11>-11",
  "45432,0,LMT;-40968,0,LMT;-39600,0,SST|-38(o#cB,1!00C|!#|SST11",
  "-54124,0,LMT;32276,0,LMT;N|-54m8^]B2glc00C5x*0c3C|!#$|<+09>-9",
  "-31220,0,LMT;-30600,0,-0830;-28800,0,-08|-2:0%j&B3]^~;&C1!+)+7C|!#$|<-08>8",
  "-48428,0,LMT;37972,0,LMT;S;N;c;S|-54maw>B2glc00Cxsnw>Dax$00C*#y00Eakp00Daxd00C3,9:e7C|!#$%&()*|<+11>-11",
  "35320,0,LMT;35312,0,PMMT;c|-3%8^:&B!v!08C5:jp2%C|!#$|<+10>-10",
  "48056,0,LMT;-38344,0,LMT;-37800,0,-1030;-36000,0,-10;-34200,1,-0930|-2<tpk]B28zc00C13tb<]E+/00D1zcu0E<nu0D?bu0D1@9t+7D|!#$%&(&(&)&(&(&(&(&(&)&(&(&(*|<-10>10",
  "-51420,0,LMT;34980,0,LMT;N;39600,1,GDT;36000,0,GST;36000,0,ChST|-54m9*0B2glc00C1,_0*0E!qp00D3>/00Eg2p00D3p910E_<~0Dr~00E1zd00D?b00E1wp00D5xd00D5s;00Dzb10E1$0~0D<n00E]/b00F|!#$%&()*+,./.0+12345|ChST-10",
  "-35896,0,LMT;-36000,0,-10|-2joe1+B556hf=B|!#|<-10>10",
  "41524,0,LMT;h|-2:0~w4B5x*2.bB|!#|<+12>-12",
  "44352,0,LMT;44400,0,+1220;46800,0,+13;50400,1,+14;46800,0,+13;50400,1,+14|-~b:jcB#g/~cC1yndk0D15!00E1wo00Fxz00C1>100Fz_;00Fs000C=9<e7C|!#$%&()(*+,|<+13>-13",
  "39988,0,LMT;h|-2:0~6sB5x*2kzB|!#|<+12>-12",
  "44120,0,LMT;h|-2:10fkB5x*3trB|!#|<+12>-12",
  "j;b;b;j|h%#00B1a000A1f!00B1c:00A1c:00B1f!00A1o000A11!00B1q:00A_:00B|!#$%&%$#&%&%&%&(&%&%&%&%&%&(&%&%&%&%&%$)*)*)*+,+,+*)*)*+,+,+,+*)*)*+,+,+*)*)*)*+,+,+*)*)*+,+,+*)*)*)*+,+,+*)*)*+,+,+,+*)*)|WET0WEST,M3.5.0/1,M10.5.0"]

/-- The names, grouped by the part of a name before its last `/`. Groups are separated by `;`;
each is a name and its place in `zones`, then, for each further name of the group, the rest of
the name after that part and its place. -/
def nameText : String :=
  String.join
    ["Africa/Abidjan 0 Accra 1 Addis_Ababa 2 Algiers 3 Asmara 4 Asmera 4 Bamako 5 Bangui 6 ",
     "Banjul 7 Bissau 8 Blantyre 9 Brazzaville 10 Bujumbura 11 Cairo 12 Casablanca 13 Ceuta 14 ",
     "Conakry 15 Dakar 16 Dar_es_Salaam 17 Djibouti 18 Douala 19 El_Aaiun 20 Freetown 21 ",
     "Gaborone 22 Harare 23 Johannesburg 24 Juba 25 Kampala 26 Khartoum 27 Kigali 28 Kinshasa ",
     "29 Lagos 30 Libreville 31 Lome 32 Luanda 33 Lubumbashi 34 Lusaka 35 Malabo 36 Maputo 37 ",
     "Maseru 38 Mbabane 39 Mogadishu 40 Monrovia 41 Nairobi 42 Ndjamena 43 Niamey 44 Nouakchott ",
     "45 Ouagadougou 46 Porto-Novo 47 Sao_Tome 48 Timbuktu 5 Tripoli 49 Tunis 50 Windhoek 51 ",
     ";America/Adak 52 Anchorage 53 Anguilla 54 Antigua 55 Araguaina 56 ",
     ";America/Argentina/Buenos_Aires 57 Catamarca 58 ComodRivadavia 58 Cordoba 59 Jujuy 60 ",
     "La_Rioja 61 Mendoza 62 Rio_Gallegos 63 Salta 64 San_Juan 65 San_Luis 66 Tucuman 67 ",
     "Ushuaia 68 ;America/Aruba 69 Asuncion 70 Atikokan 71 Atka 52 Bahia 72 Bahia_Banderas 73 ",
     "Barbados 74 Belem 75 Belize 76 Blanc-Sablon 77 Boa_Vista 78 Bogota 79 Boise 80 ",
     "Buenos_Aires 57 Cambridge_Bay 81 Campo_Grande 82 Cancun 83 Caracas 84 Catamarca 58 ",
     "Cayenne 85 Cayman 86 Chicago 87 Chihuahua 88 Ciudad_Juarez 89 Coral_Harbour 71 Cordoba 59 ",
     "Costa_Rica 90 Coyhaique 91 Creston 92 Cuiaba 93 Curacao 94 Danmarkshavn 95 Dawson 96 ",
     "Dawson_Creek 97 Denver 98 Detroit 99 Dominica 100 Edmonton 101 Eirunepe 102 El_Salvador ",
     "103 Ensenada 185 Fort_Nelson 104 Fort_Wayne 117 Fortaleza 105 Glace_Bay 106 Godthab 156 ",
     "Goose_Bay 107 Grand_Turk 108 Grenada 109 Guadeloupe 110 Guatemala 111 Guayaquil 112 ",
     "Guyana 113 Halifax 114 Havana 115 Hermosillo 116 ;America/Indiana/Indianapolis 117 Knox ",
     "118 Marengo 119 Petersburg 120 Tell_City 121 Vevay 122 Vincennes 123 Winamac 124 ",
     ";America/Indianapolis 117 Inuvik 125 Iqaluit 126 Jamaica 127 Jujuy 60 Juneau 128 ",
     ";America/Kentucky/Louisville 129 Monticello 130 ;America/Knox_IN 118 Kralendijk 94 La_Paz ",
     "131 Lima 132 Los_Angeles 133 Louisville 129 Lower_Princes 94 Maceio 134 Managua 135 ",
     "Manaus 136 Marigot 162 Martinique 137 Matamoros 138 Mazatlan 139 Mendoza 62 Menominee 140 ",
     "Merida 141 Metlakatla 142 Mexico_City 143 Miquelon 144 Moncton 145 Monterrey 146 ",
     "Montevideo 147 Montreal 186 Montserrat 148 Nassau 149 New_York 150 Nipigon 186 Nome 151 ",
     "Noronha 152 ;America/North_Dakota/Beulah 153 Center 154 New_Salem 155 ;America/Nuuk 156 ",
     "Ojinaga 157 Panama 158 Pangnirtung 126 Paramaribo 159 Phoenix 160 Port-au-Prince 161 ",
     "Port_of_Spain 162 Porto_Acre 170 Porto_Velho 163 Puerto_Rico 164 Punta_Arenas 165 ",
     "Rainy_River 190 Rankin_Inlet 166 Recife 167 Regina 168 Resolute 169 Rio_Branco 170 ",
     "Rosario 59 Santa_Isabel 185 Santarem 171 Santiago 172 Santo_Domingo 173 Sao_Paulo 174 ",
     "Scoresbysund 175 Shiprock 98 Sitka 176 St_Barthelemy 162 St_Johns 177 St_Kitts 178 ",
     "St_Lucia 179 St_Thomas 180 St_Vincent 181 Swift_Current 182 Tegucigalpa 183 Thule 184 ",
     "Thunder_Bay 186 Tijuana 185 Toronto 186 Tortola 187 Vancouver 188 Virgin 180 Whitehorse ",
     "189 Winnipeg 190 Yakutat 191 Yellowknife 101 ;Antarctica/Casey 192 Davis 193 ",
     "DumontDUrville 194 Macquarie 195 Mawson 196 McMurdo 197 Palmer 198 Rothera 199 South_Pole ",
     "197 Syowa 200 Troll 201 Vostok 202 ;Arctic/Longyearbyen 369 ;Asia/Aden 203 Almaty 204 ",
     "Amman 205 Anadyr 206 Aqtau 207 Aqtobe 208 Ashgabat 209 Ashkhabad 209 Atyrau 210 Baghdad ",
     "211 Bahrain 212 Baku 213 Bangkok 214 Barnaul 215 Beirut 216 Bishkek 217 Brunei 218 ",
     "Calcutta 241 Chita 219 Choibalsan 276 Chongqing 266 Chungking 266 Colombo 220 Dacca 222 ",
     "Damascus 221 Dhaka 222 Dili 223 Dubai 224 Dushanbe 225 Famagusta 226 Gaza 227 Harbin 266 ",
     "Hebron 228 Ho_Chi_Minh 229 Hong_Kong 230 Hovd 231 Irkutsk 232 Istanbul 355 Jakarta 233 ",
     "Jayapura 234 Jerusalem 235 Kabul 236 Kamchatka 237 Karachi 238 Kashgar 277 Kathmandu 239 ",
     "Katmandu 239 Khandyga 240 Kolkata 241 Krasnoyarsk 242 Kuala_Lumpur 243 Kuching 244 Kuwait ",
     "245 Macao 246 Macau 246 Magadan 247 Makassar 248 Manila 249 Muscat 250 Nicosia 251 ",
     "Novokuznetsk 252 Novosibirsk 253 Omsk 254 Oral 255 Phnom_Penh 256 Pontianak 257 Pyongyang ",
     "258 Qatar 259 Qostanay 260 Qyzylorda 261 Rangoon 282 Riyadh 262 Saigon 229 Sakhalin 263 ",
     "Samarkand 264 Seoul 265 Shanghai 266 Singapore 267 Srednekolymsk 268 Taipei 269 Tashkent ",
     "270 Tbilisi 271 Tehran 272 Tel_Aviv 235 Thimbu 273 Thimphu 273 Tokyo 274 Tomsk 275 ",
     "Ujung_Pandang 248 Ulaanbaatar 276 Ulan_Bator 276 Urumqi 277 Ust-Nera 278 Vientiane 279 ",
     "Vladivostok 280 Yakutsk 281 Yangon 282 Yekaterinburg 283 Yerevan 284 ;Atlantic/Azores 285 ",
     "Bermuda 286 Canary 287 Cape_Verde 288 Faeroe 289 Faroe 289 Jan_Mayen 369 Madeira 290 ",
     "Reykjavik 291 South_Georgia 292 St_Helena 293 Stanley 294 ;Australia/ACT 305 Adelaide 295 ",
     "Brisbane 296 Broken_Hill 297 Canberra 305 Currie 300 Darwin 298 Eucla 299 Hobart 300 LHI ",
     "302 Lindeman 301 Lord_Howe 302 Melbourne 303 NSW 305 North 298 Perth 304 Queensland 296 ",
     "South 295 Sydney 305 Tasmania 300 Victoria 303 West 304 Yancowinna 297 ;Brazil/Acre 170 ",
     "DeNoronha 152 East 174 West 136 ;CET 306 CST6CDT 307 ;Canada/Atlantic 114 Central 190 ",
     "Eastern 186 Mountain 101 Newfoundland 177 Pacific 188 Saskatchewan 168 Yukon 189 ",
     ";Chile/Continental 172 EasterIsland 413 ;Cuba 115 EET 308 EST 309 EST5EDT 310 Egypt 12 ",
     "Eire 350 ;Etc/GMT 311 GMT+0 311 GMT+1 312 GMT+10 313 GMT+11 314 GMT+12 315 GMT+2 316 ",
     "GMT+3 317 GMT+4 318 GMT+5 319 GMT+6 320 GMT+7 321 GMT+8 322 GMT+9 323 GMT-0 311 GMT-1 324 ",
     "GMT-10 325 GMT-11 326 GMT-12 327 GMT-13 328 GMT-14 329 GMT-2 330 GMT-3 331 GMT-4 332 ",
     "GMT-5 333 GMT-6 334 GMT-7 335 GMT-8 336 GMT-9 337 GMT0 311 Greenwich 311 UCT 338 UTC 338 ",
     "Universal 338 Zulu 338 ;Europe/Amsterdam 339 Andorra 340 Astrakhan 341 Athens 342 Belfast ",
     "362 Belgrade 343 Berlin 344 Bratislava 371 Brussels 345 Bucharest 346 Budapest 347 ",
     "Busingen 390 Chisinau 348 Copenhagen 349 Dublin 350 Gibraltar 351 Guernsey 352 Helsinki ",
     "353 Isle_of_Man 354 Istanbul 355 Jersey 356 Kaliningrad 357 Kiev 359 Kirov 358 Kyiv 359 ",
     "Lisbon 360 Ljubljana 361 London 362 Luxembourg 363 Madrid 364 Malta 365 Mariehamn 353 ",
     "Minsk 366 Monaco 367 Moscow 368 Nicosia 251 Oslo 369 Paris 370 Podgorica 343 Prague 371 ",
     "Riga 372 Rome 373 Samara 374 San_Marino 373 Sarajevo 375 Saratov 376 Simferopol 377 ",
     "Skopje 378 Sofia 379 Stockholm 380 Tallinn 381 Tirane 382 Tiraspol 348 Ulyanovsk 383 ",
     "Uzhgorod 359 Vaduz 384 Vatican 373 Vienna 385 Vilnius 386 Volgograd 387 Warsaw 388 Zagreb ",
     "389 Zaporozhye 359 Zurich 390 ;Factory 391 GB 362 GB-Eire 362 GMT 311 GMT+0 311 GMT-0 311 ",
     "GMT0 311 Greenwich 311 HST 392 Hongkong 230 Iceland 291 ;Indian/Antananarivo 393 Chagos ",
     "394 Christmas 395 Cocos 396 Comoro 397 Kerguelen 398 Mahe 399 Maldives 400 Mauritius 401 ",
     "Mayotte 402 Reunion 403 ;Iran 272 Israel 235 Jamaica 127 Japan 274 Kwajalein 426 Libya 49 ",
     "MET 404 MST 405 MST7MDT 406 ;Mexico/BajaNorte 185 BajaSur 139 General 143 ;NZ 409 NZ-CHAT ",
     "411 Navajo 98 PRC 266 PST8PDT 407 ;Pacific/Apia 408 Auckland 409 Bougainville 410 Chatham ",
     "411 Chuuk 412 Easter 413 Efate 414 Enderbury 423 Fakaofo 415 Fiji 416 Funafuti 417 ",
     "Galapagos 418 Gambier 419 Guadalcanal 420 Guam 421 Honolulu 422 Johnston 422 Kanton 423 ",
     "Kiritimati 424 Kosrae 425 Kwajalein 426 Majuro 427 Marquesas 428 Midway 429 Nauru 430 ",
     "Niue 431 Norfolk 432 Noumea 433 Pago_Pago 434 Palau 435 Pitcairn 436 Pohnpei 437 Ponape ",
     "437 Port_Moresby 438 Rarotonga 439 Saipan 440 Samoa 434 Tahiti 441 Tarawa 442 Tongatapu ",
     "443 Truk 412 Wake 444 Wallis 445 Yap 412 ;Poland 388 Portugal 360 ROC 269 ROK 265 ",
     "Singapore 267 Turkey 355 UCT 338 ;US/Alaska 53 Aleutian 52 Arizona 160 Central 87 ",
     "East-Indiana 117 Eastern 150 Hawaii 422 Indiana-Starke 118 Michigan 99 Mountain 98 ",
     "Pacific 133 Samoa 434 ;UTC 338 Universal 338 W-SU 368 WET 446 Zulu 338 "]

def wordPairs : List String → List (String × String)
  | a :: b :: rest => (a, b) :: wordPairs rest
  | _ => []

def names : Array String :=
  ((nameText.splitOn ";").flatMap fun group =>
    let words := (group.splitOn " ").filter (· ≠ "")
    let pre := String.ofList ((words.headD "").toList.reverse.dropWhile (· ≠ '/')).reverse
    (wordPairs words).map fun (w, i) => (if w.contains '/' then w else pre ++ w) ++ " " ++ i).toArray

end AccessPolicy.ZoneData
