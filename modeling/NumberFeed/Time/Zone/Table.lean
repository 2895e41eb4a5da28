import NumberFeed.Text.Quoted
import NumberFeed.Time.Zone
import NumberFeed.Value

/-!
# The known time zones

The changes of offset in each zone, up to the last one that has been settled in advance; after it
the offset stays. The tables count seconds from `tableStart`, the earliest second that a signed word
of 32 bits can write, and minutes to the east or to the west of Greenwich.
-/

namespace NumberFeed.Zone

/-- The second since the epoch from which the tables count. -/
def tableStart : Int := -2147483648

/-- A zone to the east of Greenwich, by its minutes before the first change and its changes. -/
def east (name : String) (first : Nat) (changes : List (Nat × Nat)) : Zone where
  name
  first
  changes := changes.map fun change => (tableStart + change.1, change.2)

/-- A zone to the west of Greenwich, by its minutes before the first change and its changes. -/
def west (name : String) (first : Nat) (changes : List (Nat × Nat)) : Zone where
  name
  first := -first
  changes := changes.map fun change => (tableStart + change.1, -change.2)

/-- Coordinated universal time. -/
def utc : Zone := east "UTC" 0 []

/-- Greenwich mean time. -/
def gmt : Zone := east "GMT" 0 []

/-- Five hours behind universal time all the year round. -/
def fiveBehind : Zone := west "Etc/GMT+5" 300 []

/-- The changes of offset in Shanghai. -/
def shanghaiChanges : List (Nat × Nat) := [
    (0, 480), (546808448, 540), (561579248, 480), (1213816448, 540), (1225390448, 480),
    (1238613248, 540), (1258654448, 480), (1266434048, 540), (1379614448, 480), (1401650048, 540),
    (1413656048, 480), (1430594048, 540), (1447870448, 480), (1463598848, 540), (1476814448, 480),
    (1495134848, 540), (1497464048, 480), (2663010848, 540), (2674498448, 480), (2692646048, 540),
    (2705948048, 480), (2724700448, 540), (2737397648, 480), (2756150048, 540), (2769452048, 480),
    (2787599648, 540), (2800901648, 480), (2819049248, 540), (2832351248, 480)]

/-- The zone of Shanghai. -/
def shanghai : Zone := east "Asia/Shanghai" 486 shanghaiChanges

/-- The changes of offset in Kolkata. -/
def kolkataChanges : List (Nat × Nat) := [
    (0, 321), (127777978, 330), (1255902248, 390), (1275425048, 330), (1284846248, 390),
    (1383338648, 330)]

/-- The zone of Kolkata. -/
def kolkata : Zone := east "Asia/Kolkata" 353 kolkataChanges

/-- The changes of offset in Kathmandu. -/
def kathmanduChanges : List (Nat × Nat) := [
    (569539972, 330), (2652385448, 345)]

/-- The zone of Kathmandu. -/
def kathmandu : Zone := east "Asia/Kathmandu" 341 kathmanduChanges

/-- The changes of offset in New York. -/
def newYorkChanges : List (Nat × Nat) := [
    (0, 300), (514203248, 240), (532343648, 300), (545652848, 240), (563793248, 300),
    (577102448, 240), (595847648, 300), (610971248, 240), (624273248, 300), (643025648, 240),
    (655722848, 300), (674475248, 240), (687777248, 300), (705924848, 240), (719226848, 300),
    (737374448, 240), (750676448, 300), (768824048, 240), (782126048, 300), (800273648, 240),
    (813575648, 300), (832328048, 240), (845630048, 300), (863777648, 240), (877079648, 300),
    (895227248, 240), (908529248, 300), (926676848, 240), (939978848, 300), (958126448, 240),
    (971428448, 300), (990180848, 240), (1002878048, 300), (1021630448, 240), (1034932448, 300),
    (1053080048, 240), (1066382048, 300), (1084529648, 240), (1097831648, 300), (1115979248, 240),
    (1129281248, 300), (1147428848, 240), (1160730848, 300), (1179483248, 240), (1192180448, 300),
    (1210932848, 240), (1224234848, 300), (1242382448, 240), (1255684448, 300), (1267265648, 240),
    (1382087648, 300), (1400235248, 240), (1413537248, 300), (1431684848, 240), (1444986848, 300),
    (1463134448, 240), (1476436448, 300), (1494584048, 240), (1507886048, 300), (1526638448, 240),
    (1539335648, 300), (1558088048, 240), (1571390048, 300), (1589537648, 240), (1602839648, 300),
    (1620987248, 240), (1634289248, 300), (1652436848, 240), (1665738848, 300), (1683886448, 240),
    (1700212448, 300), (1715940848, 240), (1731662048, 300), (1747390448, 240), (1763111648, 300),
    (1778840048, 240), (1794561248, 300), (1810289648, 240), (1826010848, 300), (1841739248, 240),
    (1858065248, 300), (1873793648, 240), (1889514848, 300), (1905243248, 240), (1920964448, 300),
    (1936692848, 240), (1952414048, 300), (1968142448, 240), (1983863648, 300), (1999592048, 240),
    (2015918048, 300), (2031041648, 240), (2047367648, 300), (2063096048, 240), (2078817248, 300),
    (2094545648, 240), (2110266848, 300), (2125995248, 240), (2141716448, 300), (2157444848, 240),
    (2173166048, 300), (2188894448, 240), (2205220448, 300), (2220948848, 240), (2236670048, 300),
    (2252398448, 240), (2268119648, 300), (2274171248, 240), (2299569248, 300), (2309854448, 240),
    (2331018848, 300), (2346747248, 240), (2363073248, 300), (2378196848, 240), (2394522848, 300),
    (2410251248, 240), (2425972448, 300), (2441700848, 240), (2457422048, 300), (2473150448, 240),
    (2488871648, 300), (2504600048, 240), (2520321248, 300), (2536049648, 240), (2552375648, 300),
    (2567499248, 240), (2583825248, 300), (2599553648, 240), (2615274848, 300), (2631003248, 240),
    (2646724448, 300), (2662452848, 240), (2678174048, 300), (2692088048, 240), (2709623648, 300),
    (2723537648, 240), (2741678048, 300), (2754987248, 240), (2773127648, 300), (2786436848, 240),
    (2804577248, 300), (2818491248, 240), (2836026848, 300), (2849940848, 240), (2867476448, 300),
    (2881390448, 240), (2899530848, 300), (2912840048, 240), (2930980448, 300), (2944289648, 240),
    (2962430048, 300), (2976344048, 240), (2993879648, 300), (3007793648, 240), (3025329248, 300),
    (3039243248, 240), (3056778848, 300), (3070692848, 240), (3088833248, 300), (3102142448, 240),
    (3120282848, 300), (3133592048, 240), (3151732448, 300), (3165646448, 240), (3183182048, 300),
    (3197096048, 240), (3214631648, 300), (3228545648, 240), (3246686048, 300), (3259995248, 240),
    (3278135648, 300), (3291444848, 240), (3309585248, 300), (3321080048, 240), (3341639648, 300),
    (3352529648, 240), (3373089248, 300), (3383979248, 240), (3404538848, 300), (3416033648, 240),
    (3436593248, 300), (3447483248, 240), (3468042848, 300), (3478932848, 240), (3499492448, 300),
    (3510382448, 240), (3530942048, 300), (3541832048, 240), (3562391648, 300), (3573281648, 240),
    (3593841248, 300), (3605336048, 240), (3625895648, 300), (3636785648, 240), (3657345248, 300),
    (3668235248, 240), (3688794848, 300), (3699684848, 240), (3720244448, 300), (3731134448, 240),
    (3751694048, 300), (3763188848, 240), (3783748448, 300), (3794638448, 240), (3815198048, 300),
    (3826088048, 240), (3846647648, 300), (3857537648, 240), (3878097248, 300), (3888987248, 240),
    (3909546848, 300), (3920436848, 240), (3940996448, 300), (3952491248, 240), (3973050848, 300),
    (3983940848, 240), (4004500448, 300), (4015390448, 240), (4035950048, 300), (4046840048, 240),
    (4067399648, 300), (4078289648, 240), (4098849248, 300), (4110344048, 240), (4130903648, 300),
    (4141793648, 240), (4162353248, 300), (4173243248, 240), (4193802848, 300), (4204692848, 240),
    (4225252448, 300), (4236142448, 240), (4256702048, 300), (4267592048, 240), (4288151648, 300)]

/-- The zone of New York. -/
def newYork : Zone := west "America/New_York" 296 newYorkChanges

/-- The changes of offset in Lord Howe. -/
def lordHoweChanges : List (Nat × Nat) := [
    (0, 600), (2499700448, 630), (2520269048, 690), (2531756648, 630), (2552323448, 690),
    (2563206248, 630), (2583773048, 690), (2594655848, 630), (2615222648, 690), (2626105448, 630),
    (2646672248, 660), (2658766448, 630), (2677517048, 660), (2690216048, 630), (2709571448, 660),
    (2722270448, 630), (2741625848, 660), (2753720048, 630), (2773075448, 660), (2783960048, 630),
    (2804525048, 660), (2815409648, 630), (2835974648, 660), (2846859248, 630), (2867424248, 660),
    (2878913648, 630), (2899478648, 660), (2910363248, 630), (2930928248, 660), (2941812848, 630),
    (2962377848, 660), (2975681648, 630), (2993827448, 660), (3007131248, 630), (3025277048, 660),
    (3038580848, 630), (3056726648, 660), (3070030448, 630), (3088781048, 660), (3101480048, 630),
    (3114787448, 660), (3132929648, 630), (3151680248, 660), (3164984048, 630), (3183129848, 660),
    (3196433648, 630), (3214579448, 660), (3227883248, 630), (3246633848, 660), (3259332848, 630),
    (3278083448, 660), (3291387248, 630), (3309533048, 660), (3322232048, 630), (3340982648, 660),
    (3354891248, 630), (3370617848, 660), (3386340848, 630), (3402067448, 660), (3417790448, 630),
    (3433517048, 660), (3449240048, 630), (3464966648, 660), (3480689648, 630), (3497021048, 660),
    (3512744048, 630), (3528470648, 660), (3544193648, 630), (3559920248, 660), (3575643248, 630),
    (3591369848, 660), (3607092848, 630), (3622819448, 660), (3638542448, 630), (3654269048, 660),
    (3669992048, 630), (3686323448, 660), (3702046448, 630), (3717773048, 660), (3733496048, 630),
    (3749222648, 660), (3764945648, 630), (3780672248, 660), (3796395248, 630), (3812121848, 660),
    (3827844848, 630), (3843571448, 660), (3859899248, 630), (3875625848, 660), (3891348848, 630),
    (3907075448, 660), (3922798448, 630), (3938525048, 660), (3954248048, 630), (3969974648, 660),
    (3985697648, 630), (4001424248, 660), (4017147248, 630), (4033478648, 660), (4049201648, 630),
    (4064928248, 660), (4080651248, 630), (4096377848, 660), (4112100848, 630), (4127827448, 660),
    (4143550448, 630), (4159277048, 660), (4175000048, 630), (4190726648, 660), (4206449648, 630),
    (4222781048, 660), (4238504048, 630), (4254230648, 660), (4269953648, 630), (4285680248, 660)]

/-- The zone of Lord Howe. -/
def lordHowe : Zone := east "Australia/Lord_Howe" 636 lordHoweChanges

/-- All known zones. -/
def known : List Zone :=
  [utc, gmt, fiveBehind, shanghai, kolkata, kathmandu, newYork, lordHowe]

/-- The zone of a name among those of a table. -/
def ofName (zones : List Zone) (name : String) : Except Failure Zone :=
  match zones.find? (·.hasName name) with
  | some zone => .ok zone
  | none => .error .unknownZone

/-- The zone in a table that a value names: a text, or bytes of ASCII that write one. -/
def ofValue (value : Value) (zones : List Zone := known) : Except Failure Zone :=
  match value with
  | .text name => ofName zones name
  | .bytes bytes =>
    if bytes.all (· < 128) then ofName zones (String.ofList (Text.bytesAsChars bytes))
    else .error .notAscii
  | _ => .error .unknownZone

end NumberFeed.Zone
