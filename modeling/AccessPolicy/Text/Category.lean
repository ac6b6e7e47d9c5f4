import AccessPolicy.Text.RangeTable
/-!
# General categories of Unicode 17.0

Every code point has one general category of the Unicode Character Database 17.0.0: a letter
(`Lu`, `Ll`, `Lt`, `Lm`, `Lo`), a mark (`Mn`, `Mc`, `Me`), a number (`Nd`, `Nl`, `No`), a
punctuation mark (`Pc`, `Pd`, `Ps`, `Pe`, `Pi`, `Pf`, `Po`), a symbol (`Sm`, `Sc`, `Sk`, `So`), a
separator (`Zs`, `Zl`, `Zp`), or another code point (`Cc`, `Cf`, `Cs`, `Co`, `Cn`).

The table lists the ranges of every category but `Cn`, as a run table; a code point in no range
is unassigned, `Cn`.
-/

namespace AccessPolicy.CharClass

inductive GeneralCategory where
  | lu
  | ll
  | lt
  | lm
  | lo
  | mn
  | mc
  | me
  | nd
  | nl
  | no
  | pc
  | pd
  | ps
  | pe
  | pi
  | pf
  | po
  | sm
  | sc
  | sk
  | so
  | zs
  | zl
  | zp
  | cc
  | cf
  | cs
  | co
  | cn
  deriving Repr, DecidableEq, Inhabited

namespace GeneralCategory

def all : List GeneralCategory :=
  [.lu, .ll, .lt, .lm, .lo, .mn, .mc, .me, .nd, .nl, .no, .pc, .pd, .ps, .pe,
   .pi, .pf, .po, .sm, .sc, .sk, .so, .zs, .zl, .zp, .cc, .cf, .cs, .co, .cn]

def code : GeneralCategory → String
  | .lu => "Lu"
  | .ll => "Ll"
  | .lt => "Lt"
  | .lm => "Lm"
  | .lo => "Lo"
  | .mn => "Mn"
  | .mc => "Mc"
  | .me => "Me"
  | .nd => "Nd"
  | .nl => "Nl"
  | .no => "No"
  | .pc => "Pc"
  | .pd => "Pd"
  | .ps => "Ps"
  | .pe => "Pe"
  | .pi => "Pi"
  | .pf => "Pf"
  | .po => "Po"
  | .sm => "Sm"
  | .sc => "Sc"
  | .sk => "Sk"
  | .so => "So"
  | .zs => "Zs"
  | .zl => "Zl"
  | .zp => "Zp"
  | .cc => "Cc"
  | .cf => "Cf"
  | .cs => "Cs"
  | .co => "Co"
  | .cn => "Cn"

def ofCode? (code : String) : Option GeneralCategory :=
  all.find? (·.code == code)

/-- The major class of a category: the first letter of its code, `L`, `M`, `N`, `P`, `S`, `Z` or
`C`. -/
def major (g : GeneralCategory) : Char :=
  g.code.front

end GeneralCategory

def categoryText : String :=
  String.join
    ["vCc Zs 2Po Sc 2Po Ps Pe Po Sm Po Pd 1Po 9Nd 1Po 2Sm 1Po pLu Ps Po Pe Sk Pc Sk pLl Ps Sm Pe ",
     "Sm wCc Zs Po 3Sc So Po Sk So Lo Pi Sm Cf So Sk So Sm 1No Sk Ll 1Po Sk No Lo Pf 2No Po mLu ",
     "Sm 6Lu nLl Sm 7Ll Lu Ll Lu Ll Lu Ll Lu Ll Lu Ll Lu Ll Lu Ll Lu Ll Lu Ll Lu Ll Lu Ll Lu Ll ",
     "Lu Ll Lu Ll Lu Ll Lu Ll Lu Ll Lu Ll Lu Ll Lu Ll Lu Ll Lu Ll Lu Ll Lu Ll Lu Ll Lu Ll Lu Ll ",
     "Lu 1Ll Lu Ll Lu Ll Lu Ll Lu Ll Lu Ll Lu Ll Lu Ll Lu 1Ll Lu Ll Lu Ll Lu Ll Lu Ll Lu Ll Lu Ll ",
     "Lu Ll Lu Ll Lu Ll Lu Ll Lu Ll Lu Ll Lu Ll Lu Ll Lu Ll Lu Ll Lu Ll Lu Ll Lu Ll Lu Ll Lu Ll ",
     "Lu Ll Lu Ll 1Lu Ll Lu Ll Lu 2Ll 1Lu Ll Lu Ll 1Lu Ll 2Lu 1Ll 3Lu Ll 1Lu Ll 2Lu 2Ll 1Lu Ll ",
     "1Lu Ll Lu Ll Lu Ll 1Lu Ll Lu 1Ll Lu Ll 1Lu Ll 2Lu Ll Lu Ll 1Lu 1Ll Lo Lu 2Ll 3Lo Lu Lt Ll ",
     "Lu Lt Ll Lu Lt Ll Lu Ll Lu Ll Lu Ll Lu Ll Lu Ll Lu Ll Lu Ll Lu 1Ll Lu Ll Lu Ll Lu Ll Lu Ll ",
     "Lu Ll Lu Ll Lu Ll Lu Ll Lu 1Ll Lu Lt Ll Lu Ll 2Lu Ll Lu Ll Lu Ll Lu Ll Lu Ll Lu Ll Lu Ll Lu ",
     "Ll Lu Ll Lu Ll Lu Ll Lu Ll Lu Ll Lu Ll Lu Ll Lu Ll Lu Ll Lu Ll Lu Ll Lu Ll Lu Ll Lu Ll Lu ",
     "Ll Lu Ll Lu Ll Lu Ll Lu Ll Lu Ll Lu Ll Lu 6Ll 1Lu Ll 1Lu 1Ll Lu Ll 3Lu Ll Lu Ll Lu Ll Lu Ll ",
     "Lu 1wLl 1Lo pLl hLm 3Sk bLm dSk 4Lm 6Sk Lm Sk Lm gSk 33Mn Lu Ll Lu Ll Lm Sk Lu Ll 2>Lm 2Ll ",
     "Po Lu 4>1Sk Lu Po 2Lu 1>Lu 1>1Lu Ll gLu 1>8Lu yLl Lu 1Ll 2Lu 2Ll Lu Ll Lu Ll Lu Ll Lu Ll Lu ",
     "Ll Lu Ll Lu Ll Lu Ll Lu Ll Lu Ll Lu Ll Lu 4Ll Lu Ll Sm Lu Ll 1Lu 1Ll 1eLu 1bLl Lu Ll Lu Ll ",
     "Lu Ll Lu Ll Lu Ll Lu Ll Lu Ll Lu Ll Lu Ll Lu Ll Lu Ll Lu Ll Lu Ll Lu Ll Lu Ll Lu Ll Lu Ll ",
     "So 4Mn 1Me Lu Ll Lu Ll Lu Ll Lu Ll Lu Ll Lu Ll Lu Ll Lu Ll Lu Ll Lu Ll Lu Ll Lu Ll Lu Ll Lu ",
     "Ll Lu Ll Lu Ll Lu Ll Lu Ll Lu Ll Lu Ll Lu Ll Lu Ll Lu Ll Lu Ll Lu Ll Lu Ll Lu Ll 1Lu Ll Lu ",
     "Ll Lu Ll Lu Ll Lu Ll Lu Ll Lu 1Ll Lu Ll Lu Ll Lu Ll Lu Ll Lu Ll Lu Ll Lu Ll Lu Ll Lu Ll Lu ",
     "Ll Lu Ll Lu Ll Lu Ll Lu Ll Lu Ll Lu Ll Lu Ll Lu Ll Lu Ll Lu Ll Lu Ll Lu Ll Lu Ll Lu Ll Lu ",
     "Ll Lu Ll Lu Ll Lu Ll Lu Ll Lu Ll Lu Ll Lu Ll Lu Ll Lu Ll Lu Ll Lu Ll Lu Ll Lu Ll Lu Ll Lu ",
     "Ll Lu Ll Lu Ll Lu Ll Lu Ll Lu Ll Lu Ll Lu Ll Lu Ll 1>11Lu 2>Lm 5Po 14Ll Po Pd 2>1So Sc ",
     "1>18Mn Pd Mn Po 1Mn Po 1Mn Po Mn 8>qLo 4>3Lo 1Po b>5Cf 2Sm 1Po Sc 1Po 1So aMn Po Cf 2Po vLo ",
     "Lm 9Lo kMn 9Nd 3Po 1Lo Mn 2qLo Po Lo 6Mn Cf So 5Mn 1Lm 1Mn So 3Mn 1Lo 9Nd 2Lo 1So Lo dPo ",
     "1>Cf Lo Mn tLo qMn 2>2gLo aMn Lo e>9Nd wLo 8Mn 1Lm So 2Po Lm 2>Mn 1Sc lLo 3Mn Lm 8Mn Lm 2Mn ",
     "Lm 4Mn 2>ePo 1>oLo 2Mn 2>Po 1>aLo 5>nLo Sk 6Lo 1Cf 5>8Mn 14Lo Lm nMn Cf vMn Mc 1hLo Mn Mc ",
     "Mn Lo 2Mc 7Mn 3Mc Mn 1Mc Lo 6Mn 9Lo 1Mn 1Po 9Nd Po Lm eLo Mn 1Mc 1>7Lo 2>1Lo 2>lLo 1>6Lo ",
     "1>Lo 3>3Lo 2>Mn Lo 2Mc 3Mn 2>1Mc 2>1Mc Mn Lo 8>Mc 4>1Lo 1>2Lo 1Mn 2>9Nd 1Lo 1Sc 5No So Sc ",
     "Lo Po Mn 2>1Mn Mc 1>5Lo 4>1Lo 2>lLo 1>6Lo 1>1Lo 1>1Lo 1>1Lo 2>Mn 1>2Mc 1Mn 4>1Mn 2>2Mn 3>Mn ",
     "7>3Lo 1>Lo 7>9Nd 1Mn 2Lo Mn Po a>1Mn Mc 1>8Lo 1>2Lo 1>lLo 1>6Lo 1>1Lo 1>4Lo 2>Mn Lo 2Mc 4Mn ",
     "1>1Mn Mc 1>1Mc Mn 2>Lo f>1Lo 1Mn 2>9Nd Po Sc 7>Lo 5Mn 1>Mn 1Mc 1>7Lo 2>1Lo 2>lLo 1>6Lo ",
     "1>1Lo 1>4Lo 2>Mn Lo Mc Mn Mc 3Mn 2>1Mc 2>1Mc Mn 7>1Mn Mc 4>1Lo 1>2Lo 1Mn 2>9Nd So Lo 5No ",
     "a>Mn Lo 1>5Lo 3>2Lo 1>3Lo 3>1Lo 1>Lo 1>1Lo 3>1Lo 3>2Lo 3>bLo 4>1Mc Mn 1Mc 3>2Mc 1>2Mc Mn ",
     "2>Lo 6>Mc e>9Nd 2No 5So Sc So 5>Mn 2Mc Mn 7Lo 1>2Lo 1>mLo 1>fLo 2>Mn Lo 2Mn 3Mc 1>2Mn 1>3Mn ",
     "7>1Mn 1>2Lo 1>1Lo 2>1Lo 1Mn 2>9Nd 7>Po 6No So Lo Mn 1Mc Po 7Lo 1>2Lo 1>mLo 1>9Lo 1>4Lo 2>Mn ",
     "Lo Mc Mn 4Mc 1>Mn 1Mc 1>1Mc 1Mn 7>1Mc 5>2Lo 1>1Lo 1Mn 2>9Nd 1>1Lo Mc c>1Mn 1Mc 8Lo 1>2Lo ",
     "1>14Lo 1Mn Lo 2Mc 3Mn 1>2Mc 1>2Mc Mn Lo So 4>2Lo Mc 6No 2Lo 1Mn 2>9Nd 8No So 5Lo 1>Mn 1Mc ",
     "1>hLo 3>nLo 1>8Lo 1>Lo 2>6Lo 3>Mn 4>2Mc 2Mn 1>Mn 1>7Mc 6>9Nd 2>1Mc Po c>1bLo Mn 1Lo 6Mn ",
     "4>Sc 5Lo Lm 7Mn Po 9Nd 1Po 11>1Lo 1>Lo 1>4Lo 1>nLo 1>Lo 1>9Lo Mn 1Lo 8Mn Lo 2>4Lo 1>Lm ",
     "1>6Mn 1>9Nd 2>3Lo w>Lo 2So ePo So Po 2So 1Mn 5So 9Nd 9No So Mn So Mn So Mn Ps Pe Ps Pe 1Mc ",
     "7Lo 1>zLo 4>dMn Mc 4Mn Po 1Mn 4Lo aMn 1>zMn 1>7So Mn 5So 1>1So 4Po 3So 1Po 11>16Lo 1Mc 3Mn ",
     "Mc 5Mn Mc 1Mn 1Mc 1Mn Lo 9Nd 5Po 5Lo 1Mc 1Mn 3Lo 2Mn Lo 2Mc 1Lo 6Mc 2Lo 3Mn cLo Mn 1Mc 1Mn ",
     "5Mc Mn Lo Mc 9Nd 2Mc Mn 1So 11Lu 1>Lu 5>Lu 2>16Ll Po Lm 2Ll 94Lo 1>3Lo 2>6Lo 1>Lo 1>3Lo ",
     "2>14Lo 1>3Lo 2>wLo 1>3Lo 2>6Lo 1>Lo 1>3Lo 2>eLo 1>1kLo 1>3Lo 2>1uLo 2>2Mn 8Po jNo 3>fLo 9So ",
     "6>2dLu 2>5Ll 2>Pd h7Lo So Po gLo Zs pLo Ps Pe 3>22Lo 2Po 2Nl 7Lo 7>hLo 2Mn Mc 9>iLo 1Mn Mc ",
     "1Po 9>hLo 1Mn c>cLo 1>2Lo 1>1Mn c>1fLo 1Mn Mc 6Mn 7Mc Mn 1Mc aMn 2Po Lm 2Po Sc Lo Mn 2>9Nd ",
     "6>9No 6>5Po Pd 3Po 2Mn Cf Mn 9Nd 6>yLo Lm 1gLo 7>4Lo 1Mn xLo Mn Lo 5>1xLo a>uLo 1>2Mn 3Mc ",
     "1Mn 2Mc 4>1Mc Mn 5Mc 2Mn 4>So 3>1Po 9Nd tLo 2>4Lo b>17Lo 4>pLo 6>9Nd No 3>xSo mLo 1Mn 1Mc ",
     "Mn 2>1Po 1gLo Mc Mn Mc 6Mn 1>Mn Mc Mn 1Mc 7Mn 5Mc 9Mn 2>Mn 9Nd 6>9Nd 6>6Po Lm 5Po 2>dMn Me ",
     "uMn 2>bMn k>3Mn Mc 1aLo Mn Mc 4Mn Mc Mn 4Mc Mn 1Mc 7Lo 1>1Po 9Nd 6Po 9So 8Mn 8So 2Po 1Mn Mc ",
     "tLo Mc 3Mn 1Mc 1Mn Mc 2Mn 1Lo 9Nd 17Lo Mn Mc 1Mn 2Mc Mn Mc 2Mn 1Mc 8>3Po zLo 7Mc 7Mn 1Mc ",
     "1Mn 3>4Po 9Nd 3>2Lo 9Nd tLo 5Lm 1Po 8Ll Lu Ll 5>16Lu 2>2Lu 7Po 8>2Mn Po cMn Mc 6Mn 3Lo Mn ",
     "5Lo Mn 1Lo Mc 1Mn Lo 5>17Ll 1qLm cLl Lm xLl 10Lm 1rMn Lu Ll Lu Ll Lu Ll Lu Ll Lu Ll Lu Ll ",
     "Lu Ll Lu Ll Lu Ll Lu Ll Lu Ll Lu Ll Lu Ll Lu Ll Lu Ll Lu Ll Lu Ll Lu Ll Lu Ll Lu Ll Lu Ll ",
     "Lu Ll Lu Ll Lu Ll Lu Ll Lu Ll Lu Ll Lu Ll Lu Ll Lu Ll Lu Ll Lu Ll Lu Ll Lu Ll Lu Ll Lu Ll ",
     "Lu Ll Lu Ll Lu Ll Lu Ll Lu Ll Lu Ll Lu Ll Lu Ll Lu Ll Lu Ll Lu Ll Lu Ll Lu Ll Lu Ll Lu Ll ",
     "Lu Ll Lu Ll Lu Ll Lu Ll Lu Ll Lu Ll Lu Ll Lu Ll Lu Ll Lu Ll Lu Ll Lu Ll Lu Ll Lu Ll Lu Ll ",
     "Lu Ll Lu Ll Lu Ll Lu Ll Lu Ll Lu Ll Lu Ll Lu Ll Lu 8Ll Lu Ll Lu Ll Lu Ll Lu Ll Lu Ll Lu Ll ",
     "Lu Ll Lu Ll Lu Ll Lu Ll Lu Ll Lu Ll Lu Ll Lu Ll Lu Ll Lu Ll Lu Ll Lu Ll Lu Ll Lu Ll Lu Ll ",
     "Lu Ll Lu Ll Lu Ll Lu Ll Lu Ll Lu Ll Lu Ll Lu Ll Lu Ll Lu Ll Lu Ll Lu Ll Lu Ll Lu Ll Lu Ll ",
     "Lu Ll Lu Ll Lu Ll Lu Ll Lu Ll Lu Ll Lu Ll Lu Ll Lu Ll Lu Ll Lu Ll Lu Ll Lu 8Ll 7Lu 5Ll ",
     "2>5Lu 2>7Ll 7Lu 7Ll 7Lu 5Ll 2>5Lu 2>7Ll 1>Lu 1>Lu 1>Lu 1>Lu 7Ll 7Lu dLl 2>7Ll 7Lt 7Ll 7Lt ",
     "7Ll 7Lt 4Ll 1>1Ll 3Lu Lt Sk Ll 2Sk 2Ll 1>1Ll 3Lu Lt 2Sk 3Ll 2>1Ll 3Lu 1>2Sk 7Ll 4Lu 2Sk ",
     "2>2Ll 1>1Ll 3Lu Lt 1Sk 1>aZs 4Cf 5Pd 1Po Pi Pf Ps 1Pi Pf Ps Pi 7Po Zl Zp 4Cf Zs 8Po Pi Pf ",
     "3Po 1Pc 2Po Sm Ps Pe aPo Sm Po Pc 9Po Zs 4Cf 1>9Cf No Lm 2>5No 2Sm Ps Pe Lm 9No 2Sm Ps Pe ",
     "1>cLm 3>xSc e>cMn 3Me Mn 2Me bMn f>1So Lu 3So Lu 1So Ll 2Lu 1Ll 2Lu Ll So Lu 1So Sm 4Lu 5So ",
     "Lu So Lu So Lu So 3Lu So Ll 3Lu Ll 3Lo Ll 1So 1Ll 1Lu 4Sm Lu 3Ll So Sm 1So Ll So fNo yNl Lu ",
     "Ll 3Nl No 1So 4>4Sm 4So 1Sm 3So Sm 1So Sm 1So Sm 6So Sm uSo 1Sm 1So Sm So Sm uSo 7fSm 7So ",
     "Ps Pe Ps Pe jSo 1Sm 6So Ps Pe 28So Sm tSo oSm 13So 5Sm 1zSo m>aSo l>1nNo 25So lNo 52So Sm ",
     "8So Sm 1hSo 7Sm 32So Sm 6vSo Ps Pe Ps Pe Ps Pe Ps Pe Ps Pe Ps Pe Ps Pe tNo 17So 4Sm Ps Pe ",
     "uSm Ps Pe Ps Pe Ps Pe Ps Pe Ps Pe fSm 73So 3mSm Ps Pe Ps Pe Ps Pe Ps Pe Ps Pe Ps Pe Ps Pe ",
     "Ps Pe Ps Pe Ps Pe Ps Pe 1qSm Ps Pe Ps Pe vSm Ps Pe 75Sm 1bSo kSm 1So 5Sm 12So 2>3tSo 1bLu ",
     "1bLl Lu Ll 2Lu 1Ll Lu Ll Lu Ll Lu Ll 3Lu Ll Lu 1Ll Lu 5Ll 1Lm 2Lu Ll Lu Ll Lu Ll Lu Ll Lu ",
     "Ll Lu Ll Lu Ll Lu Ll Lu Ll Lu Ll Lu Ll Lu Ll Lu Ll Lu Ll Lu Ll Lu Ll Lu Ll Lu Ll Lu Ll Lu ",
     "Ll Lu Ll Lu Ll Lu Ll Lu Ll Lu Ll Lu Ll Lu Ll Lu Ll Lu Ll Lu Ll Lu Ll Lu Ll Lu Ll Lu Ll Lu ",
     "Ll Lu Ll Lu Ll Lu Ll Lu Ll Lu Ll Lu Ll Lu Ll Lu Ll Lu Ll Lu Ll Lu Ll Lu Ll Lu Ll Lu Ll Lu ",
     "1Ll 5So Lu Ll Lu Ll 2Mn Lu Ll 5>3Po No 1Po 11Ll 1>Ll 5>Ll 2>1jLo 7>Lm Po e>Mn mLo 9>6Lo ",
     "1>6Lo 1>6Lo 1>6Lo 1>6Lo 1>6Lo 1>6Lo 1>6Lo 1>vMn 1Po Pi Pf Pi Pf 2Po Pi Pf Po Pi Pf 8Po Pd ",
     "1Po Pd Po Pi Pf 1Po Pi Pf Ps Pe Ps Pe Ps Pe Ps Pe 4Po Lm 9Po 1Pd 3Po Pd Po Ps cPo 1So 2Po ",
     "Ps Pe Ps Pe Ps Pe Ps Pe Pd y>pSo 1>2gSo c>5xSo q>fSo Zs 2Po So Lm Lo Nl Ps Pe Ps Pe Ps Pe ",
     "Ps Pe Ps Pe 1So Ps Pe Ps Pe Ps Pe Ps Pe Pd Ps 1Pe So 8Nl 3Mn 1Mc Pd 4Lm 1So 2Nl Lm Lo Po ",
     "1So 1>2dLo 2>1Mn 1Sk 1Lm Lo Pd 2hLo Po 2Lm Lo 5>16Lo 1>2lLo 1>1So 3No 9So vLo 11So 9>So fLo ",
     "uSo 1>9No tSo 7No So eNo vSo 9No 12So eNo 8vSo 533Lo 1rSo g7oLo Lm vqLo 3>1iSo 9>13Lo 5Lm ",
     "1Po 7fLo Lm 2Po fLo 9Nd 1Lo k>Lu Ll Lu Ll Lu Ll Lu Ll Lu Ll Lu Ll Lu Ll Lu Ll Lu Ll Lu Ll ",
     "Lu Ll Lu Ll Lu Ll Lu Ll Lu Ll Lu Ll Lu Ll Lu Ll Lu Ll Lu Ll Lu Ll Lu Ll Lu Ll Lo Mn 2Me Po ",
     "9Mn Po Lm Lu Ll Lu Ll Lu Ll Lu Ll Lu Ll Lu Ll Lu Ll Lu Ll Lu Ll Lu Ll Lu Ll Lu Ll Lu Ll Lu ",
     "Ll 1Lm 1Mn 1xLo 9Nl 1Mn 5Po 8>mSk 8Lm 1Sk Lu Ll Lu Ll Lu Ll Lu Ll Lu Ll Lu Ll Lu 2Ll Lu Ll ",
     "Lu Ll Lu Ll Lu Ll Lu Ll Lu Ll Lu Ll Lu Ll Lu Ll Lu Ll Lu Ll Lu Ll Lu Ll Lu Ll Lu Ll Lu Ll ",
     "Lu Ll Lu Ll Lu Ll Lu Ll Lu Ll Lu Ll Lu Ll Lu Ll Lu Ll Lu Ll Lu Ll Lu Ll Lu Ll Lu Ll Lu Ll ",
     "Lm 7Ll Lu Ll Lu Ll 1Lu Ll Lu Ll Lu Ll Lu Ll Lu Ll Lm 1Sk Lu Ll Lu Ll Lo Lu Ll Lu 2Ll Lu Ll ",
     "Lu Ll Lu Ll Lu Ll Lu Ll Lu Ll Lu Ll Lu Ll Lu Ll Lu Ll 4Lu Ll 4Lu Ll Lu Ll Lu Ll Lu Ll Lu Ll ",
     "Lu Ll Lu Ll Lu Ll 3Lu Ll Lu Ll 1Lu Ll Lu Ll Lu Ll Lu Ll Lu Ll Lu Ll Lu Ll Lu Ll Lu k>3Lm Lu ",
     "Ll Lo 1Lm Ll 6Lo Mn 2Lo Mn 3Lo Mn mLo 1Mc 1Mn Mc 3So Mn 3>5No 1So Sc So 6>1fLo 3Po 8>1Mc ",
     "1dLo fMc 1Mn 8>1Po 9Nd 6>hMn 5Lo 2Po Lo Po 1Lo Mn 9Nd rLo 7Mn 1Po mLo aMn 1Mc b>Po sLo ",
     "3>2Mn Mc 1aLo Mn 1Mc 3Mn 1Mc 1Mn 2Mc cPo 1>Lm 9Nd 4>1Po 4Lo Mn Lm 8Lo 9Nd 4Lo 1>14Lo 5Mn ",
     "1Mc 1Mn 1Mc 1Mn 9>2Lo Mn 7Lo Mn Mc 2>9Nd 2>3Po fLo Lm 5Lo 2So Lo Mc Mn Mc 1dLo Mn Lo 2Mn ",
     "1Lo 1Mn 4Lo 1Mn Lo Mn Lo o>1Lo Lm 1Po aLo Mc 1Mn 1Mc 1Po Lo 1Lm Mc Mn a>5Lo 2>5Lo 2>5Lo ",
     "9>6Lo 1>6Lo 1>16Ll Sk 3Lm 8Ll Lm 1Sk 4>27Ll yLo 1Mc Mn 1Mc Mn 1Mc Po Mc Mn 2>9Nd 6>8mbLo ",
     "c>mLo 4>1cLo 4>1kvCs 4xrCo a5Lo 2>2xLo 12>6Ll c>4Ll 5>Lo Mn 9Lo Sm cLo 1>4Lo 1>Lo 1>1Lo ",
     "1>1Lo 1>2zLo gSk fSo a2Lo Pe Ps fSo 1rLo 1So 1hLo 7So w>bLo Sc 2So fMn 6Po Ps Pe Po 6>fMn ",
     "Po 1Pd 1Pc Ps Pe Ps Pe Ps Pe Ps Pe Ps Pe Ps Pe Ps Pe Ps Pe 1Po Ps Pe 3Po 2Pc 2Po 1>3Po Pd ",
     "Ps Pe Ps Pe Ps Pe 2Po Sm Pd 2Sm 1>Po Sc 1Po 4>4Lo 1>3qLo 2>Cf 1>2Po Sc 2Po Ps Pe Po Sm Po ",
     "Pd 1Po 9Nd 1Po 2Sm 1Po pLu Ps Po Pe Sk Pc Sk pLl Ps Sm Pe Sm Ps Pe Po Ps Pe 1Po 9Lo Lm 18Lo ",
     "1Lm uLo 3>5Lo 2>5Lo 2>5Lo 2>2Lo 3>1Sc Sm Sk So 1Sc 1>So 3Sm 1So a>2Cf 1So 2>bLo 1>pLo 1>iLo ",
     "1>1Lo 1>eLo 2>dLo y>3eLo 5>2Po 4>18No 3>8So 1gNl 3No gSo 1No 2So 1>cSo 3>So 1b>18So Mn ",
     "3m>sLo 3>1cLo f>Mn qNo 4>vLo 3No 9>jLo Nl 7Lo Nl 5>11Lo 4Mn 5>tLo 1>Po zLo 4>7Lo Po 4Nl ",
     "16>13Lu 13Ll 25Lo 2>9Nd 6>zLu 4>zLl 4>13Lo 8>1fLo b>Po aLu 1>eLu 1>6Lu 1>1Lu 1>aLl 1>eLl ",
     "1>6Ll 1>1Ll 3>1fLo c>8mLo 9>lLo a>7Lo o>5Lm 1>15Lm 1>8Lm 1x>5Lo 2>Lo 1>17Lo 1>1Lo 3>Lo ",
     "2>mLo 1>Po 7No mLo 1So 6No uLo 8>8No 1c>iLo 1>1Lo 5>4No lLo 5No 3>Po pLo 5>Po pLo 12>1jLo ",
     "4>1No 1Lo fNo 2>19No Lo 2Mn 1>1Mn 5>3Mn 3Lo 1>2Lo 1>sLo 2>2Mn 4>Mn 8No 7>8Po 7>sLo 1No Po ",
     "sLo 2No w>7Lo So rLo 1Mn 4>4No 6Po 9>1hLo 3>6Po lLo 2>7No iLo 5>7No hLo 7>3Po c>6No 28>20Lo ",
     "1j>1eLu d>1eLl 7>5No zLo 3Mn 8>9Nd 6>9Nd 3Lo Lm Lo lLu 3>4Mn Pd Lm lLl 8>1Sm 5s>uNo 1>15Lo ",
     "1>1Mn Pd 2>1Lo g>2Lo Lm 1Lo 8>Po 7So x>5Mn sLo 9No Lo 8>lLo aMn 3No 4Po m>hLo 3Mn 3Po ",
     "12>kLo 6No k>mLo 9>Mc Mn Mc 1gLo eMn 6Po 4>jNo 9Nd Mn 1Lo 1Mn Lo 9>2Mn Mc 18Lo 2Mc 3Mn 1Mc ",
     "1Mn 1Po Cf 3Po Mn a>Cf 2>oLo 7>9Nd 6>2Mn zLo 4Mn Mc 7Mn 1>9Nd 3Po Lo 1Mc Lo 8>yLo Mn 1Po Lo ",
     "9>1Mn Mc 1bLo 2Mc 8Mn 1Mc 3Lo 3Po 3Mn Po Mc Mn 9Nd Lo Po Lo 2Po 1>jNo b>hLo 1>oLo 2Mc 2Mn ",
     "1Mc Mn Mc 1Mn 5Po Mn 1Lo Mn 1q>6Lo 1>Lo 1>3Lo 1>eLo 1>9Lo Po 6>1aLo Mn 2Mc 7Mn 5>9Nd 6>1Mn ",
     "1Mc 1>7Lo 2>1Lo 2>lLo 1>6Lo 1>1Lo 1>4Lo 1>1Mn Lo 1Mc Mn 3Mc 2>1Mc 2>2Mc 2>Lo 6>Mc 5>4Lo 1Mc ",
     "2>6Mn 3>4Mn b>9Lo 1>Lo 2>Lo 1>11Lo 1>Lo 2Mc 5Mn 1>Mc 2>Mc 1>3Mc 1>1Mc Mn Mc Mn Lo Mn Lo 1Po ",
     "1>1Po 8>1Mn t>1gLo 2Mc 7Mn 1Mc 2Mn Mc Mn 3Lo 4Po 9Nd 1Po 1>Po Mn 2Lo u>1bLo 2Mc 5Mn Mc Mn ",
     "3Mc 1Mn Mc 1Mn 1Lo Po Lo 8>9Nd 4m>1aLo 2Mc 3Mn 2>3Mc 1Mn Mc 1Mn mPo 3Lo 1Mn y>1bLo 2Mc 7Mn ",
     "1Mc Mn Mc 1Mn 2Po Lo b>9Nd 6>cPo j>16Lo Mn Mc Mn 1Mc 5Mn Mc Mn Lo Po 6>9Nd 6>jNd s>qLo 2>Mn ",
     "Mc Mn 1Mc 3Mn Mc 4Mn 4>9Nd 1No 2Po So 6Lo 55>17Lo 2Mc 8Mn Mc 1Mn Po 2s>vLu vLl 9Nd 8No ",
     "c>7Lo 2>Lo 2>7Lo 1>1Lo 1>nLo 5Mc 1>1Mc 2>1Mn Mc Mn Lo Mc Lo Mc Mn 2Po 9>9Nd 1y>7Lo 2>12Lo ",
     "2Mc 3Mn 2>1Mn 3Mc Mn Lo Po Lo Mc r>Lo 9Mn 13Lo 5Mn Mc Lo 3Mn 7Po Mn 8>Lo 5Mn 1Mc 2Mn 19Lo ",
     "cMn Mc 1Mn 2Po Lo 4Po d>20Lo 7>9Po 2e>Mn Mc 2Mn Mc Mn Mc 2g>wLo Po e>9Nd 6>8Lo 1>10Lo Mc ",
     "6Mn 1>5Mn Mc Mn Lo 4Po a>9Nd iNo 3>1Po tLo 2>lMn 1>Mc 6Mn Mc 1Mn Mc 1Mn 21>6Lo 1>1Lo 1>11Lo ",
     "5Mn 3>Mn 1>1Mn 1>6Mn Lo Mn 8>9Nd 6>5Lo 1>1Lo 1>vLo 4Mc 1>1Mn 1>1Mc Mn Mc Mn Lo 7>9Nd 6>14Lo ",
     "Lm 1Lo 4>9Nd 6u>iLo 1Mn 1Mc 1Po 7>1Mn Lo Mc cLo 1>xLo 1Mc 4Mn 3>1Mc Mn Mc Mn cPo 9Nd Mn ",
     "2d>Lo f>kNo 7So 3Sc gSo d>Po plLo 2u>32Nl 1>4Po b>5fLo 218>2oLo 1Po d>trLo fCf Mn 5Lo eMn ",
     "a>32yLo 5>g6Lo 5a1>tLo bMn 2Mc 2Mn 9Nd 1c6>fsLo 7>uLo 1>9Nd 4>1Po 26Lo 1>9Nd 6>tLo 2>4Mn Po ",
     "a>1bLo 6Mn 4Po 3So 3Lm Po So a>9Nd 1>6No 1>kLo 5>iLo c0>2Lm 13Lo 1Lm 2Po 9Nd 5i>vLu vLl mNo ",
     "3Po 5>oLu 2>oLl 18>22Lo 4>Mn Lo 1iMc 7>3Mn cLm 1s>1Lm Po Lm Mn b>1Mc 1Lm 2Nl 9>5p1Lo 15>vLo ",
     "2p>36Lo 6pp>3Lm 1>6Lm 1>1Lm 1>82Lo f>Lo t>2Lo 2>Lo e>3Lo 8>azLo 1s4>2yLo 5>cLo 3>8Lo 7>9Lo ",
     "2>So 1Mn Po 3Cf 318>6nSo 9Nd 2So 3>c3So 6>mSo f>fSo Sm f>19Mn 2>mMn 9>37So 1o>6tSo a>12So ",
     "2>1nSo 1Mc 2Mn 2So 5Mc 7Cf 7Mn 1So 6Mn tSo 3Mn 1oSo l>1tSo 2Mn So 3e>jNo c>jNo c>2eSo 9>oNo ",
     "3r>pLu pLl pLu 6Ll 1>hLl pLu pLl Lu 1>1Lu 2>Lu 2>1Lu 2>3Lu 1>7Lu 3Ll 1>Ll 1>6Ll 1>aLl pLu ",
     "pLl 1Lu 1>3Lu 2>7Lu 1>6Lu 1>pLl 1Lu 1>3Lu 1>4Lu 1>Lu 3>6Lu 1>pLl pLu pLl pLu pLl pLu pLl ",
     "pLu pLl pLu pLl pLu rLl 2>oLu Sm oLl Sm 5Ll oLu Sm oLl Sm 5Ll oLu Sm oLl Sm 5Ll oLu Sm oLl ",
     "Sm 5Ll oLu Sm oLl Sm 5Ll Lu Ll 2>1dNd e7So 1iMn 3So 1dMn 7So Mn dSo Mn 1So 4Po f>4Mn 1>eMn ",
     "uo>9Ll Lo jLl 6>5Ll 5x>6Mn 1>gMn 2>6Mn 1>1Mn 1>4Mn 5>1pLm x>Mn 34>18Lo 3>6Mn 6Lm 2>9Nd 4>Lo ",
     "So 8w>tLo Mn h>17Lo 3Mn 9Nd 5>Sc cw>qLo Lm 3Mn 9Nd 5y>tLo 1Mn Lo 9Nd 4>Po 5c>uLo 1>2Lo Mn ",
     "1Lo Mn 6Lo 1Mn 4Lo Mn 8>Lo Lm 68>6Lo 1>3Lo 1>1Lo 1>eLo 1>5gLo 2>8No 6Mn 15>xLu xLl 6Mn Lm ",
     "4>9Nd 4>1Po lt>1mNo So 2No Sc 3No 24>18No So eNo 5e>3Lo 1>qLo 1>1Lo 1>Lo 2>Lo 1>9Lo 1>3Lo ",
     "1>Lo 1>Lo 6>Lo 4>Lo 1>Lo 1>Lo 1>2Lo 1>1Lo 1>Lo 2>Lo 1>Lo 1>Lo 1>Lo 1>Lo 1>1Lo 1>Lo 2>3Lo ",
     "1>6Lo 1>3Lo 1>3Lo 1>Lo 1>9Lo 1>gLo 5>2Lo 1>4Lo 1>gLo 1g>1Sm 7i>17So 4>2rSo c>eSo 2>eSo ",
     "1>eSo 1>10So a>cNo 4gSo 1k>sSo d>17So 4>8So 7>1So e>5So 4a>6ySo 4Sk k8So 3>gSo 3>cSo 3>61So ",
     "6>bSo 4>So f>bSo 4>1jSo 8>9So 6>13So 8>tSo 2>bSo 4>1So e>8Sm 13>9jSo 8>dSo 2>cSo 3>aSo ",
     "3>1kSo 1>So 4>fSo 2>bSo 4>9So 7>42So 1>2jSo 9Nd So sl>wynLo w>3dpLo 2>4gdLo 2>5rkLo f>h9Lo ",
     "1wi>f1Lo 15u>3t6Lo 5>6jtLo f5vr>Cf u>2nCf 3k>6nMn 1e6o>1ekdCo 2>1ekdCo "]
def categoryTable : Array (Nat × Nat × GeneralCategory) :=
  (readRuns categoryText).map fun (lo, hi, label) => (lo, hi, (GeneralCategory.ofCode? label).getD .cn)

def generalCategory (c : Char) : GeneralCategory :=
  (labelAt? categoryTable c.toNat).getD .cn

end AccessPolicy.CharClass
